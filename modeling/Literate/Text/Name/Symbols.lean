import Literate.Text.Name.Run

/-!
# Names of characters: symbols

Punctuation, symbols and the remaining characters of four hexadecimal digits.
-/

namespace Literate
namespace Text

/-- The names of the characters from U+2000 to U+FFFF. -/
def symbolNames : NameRuns :=
  [(0x2000, [
    "EN QUAD;EM QUAD;EN SPACE;EM SPACE;THREE-PER-EM SPACE;FOUR-PER-EM SPACE;SIX-PER-EM SPACE",
    "FIGURE SPACE;PUNCTUATION SPACE;THIN SPACE;HAIR SPACE;ZERO WIDTH SPACE;bNON-JOINER;bJOINER",
    "LEFT-TO-RIGHT MARK;RIGHT-TO-LEFT MARK;HYPHEN;NON-BREAKING HYPHEN;FIGURE DASH;EN DASH;EM DASH",
    "HORIZONTAL BAR;DOUBLE q LINE;aLOW LINE;LEFT SINGLE QUOTATION MARK;RIGHT SINGLE QUOTATION MARK",
    "SINGLE LOW-9 QUOTATION MARK;aHIGH-REVERSED-9 QUOTATION MARK;LEFT l QUOTATION MARK",
    "RIGHT l QUOTATION MARK;DOUBLE LOW-9 QUOTATION MARK;aHIGH-REVERSED-9 QUOTATION MARK;DAGGER",
    "DOUBLE DAGGER;BULLET;TRIANGULAR BULLET;ONE DOT LEADER;TWO DOT LEADER;HORIZONTAL ELLIPSIS",
    "HYPHENATION POINT;LINE SEPARATOR;PARAGRAPH SEPARATOR;LEFT-TO-RIGHT EMBEDDING",
    "RIGHT-TO-LEFT EMBEDDING;POP DIRECTIONAL FORMATTING;LEFT-TO-RIGHT OVERRIDE",
    "RIGHT-TO-LEFT OVERRIDE;NARROW NO-BREAK SPACE;PER MILLE g;aTEN THOUSAND g;PRIME;DOUBLE PRIME",
    "TRIPLE PRIME;REVERSED PRIME;al PRIME;aTRIPLE PRIME;CARET",
    "SINGLE LEFT-POINTING ANGLE QUOTATION MARK;aRIGHT-POINTING ANGLE QUOTATION MARK;REFERENCE MARK",
    "DOUBLE EXCLAMATION MARK;INTERROBANG;OVERLINE;UNDERTIE;CHARACTER TIE;CARET INSERTION POINT",
    "ASTERISM;HYPHEN BULLET;FRACTION SLASH;LEFT SQUARE BRACKET b QUILL",
    "RIGHT SQUARE BRACKET b QUILL;DOUBLE QUESTION MARK;QUESTION EXCLAMATION MARK",
    "EXCLAMATION QUESTION MARK;TIRONIAN g ET;REVERSED PILCROW g;BLACK r BULLET;ak BULLET",
    "LOW ASTERISK;REVERSED SEMICOLON;CLOSE UP;TWO ASTERISKS ALIGNED VERTICALLY;COMMERCIAL MINUS g",
    "SWUNG DASH;INVERTED UNDERTIE;FLOWER PUNCTUATION MARK;THREE DOT PUNCTUATION;QUADRUPLE PRIME",
    "FOUR DOT PUNCTUATION;FIVE DOT PUNCTUATION;TWO DOT PUNCTUATION;FOUR DOT MARK;DOTTED CROSS",
    "TRICOLON;VERTICAL FOUR DOTS;MEDIUM MATHEMATICAL SPACE;WORD JOINER;FUNCTION APPLICATION",
    "INVISIBLE TIMES;aSEPARATOR;aPLUS;-1;LEFT-TO-RIGHT ISOLATE;RIGHT-TO-LEFT ISOLATE",
    "FIRST STRONG ISOLATE;POP DIRECTIONAL ISOLATE;INHIBIT SYMMETRIC SWAPPING",
    "ACTIVATE SYMMETRIC SWAPPING;INHIBIT ARABIC e SHAPING;ACTIVATE ARABIC e SHAPING",
    "NATIONAL DIGIT SHAPES;NOMINAL DIGIT SHAPES;SUPERSCRIPT ZERO;aLATIN d a I;-2;aFOUR;aFIVE;aSIX",
    "aSEVEN;aEIGHT;aNINE;aPLUS g;aMINUS;aEQUALS g;ao PARENTHESIS;ah PARENTHESIS;aLATIN d a N",
    "SUBSCRIPT ZERO;aONE;aTWO;at;aFOUR;aFIVE;aSIX;aSEVEN;aEIGHT;aNINE;aPLUS g;aMINUS;aEQUALS g",
    "ao PARENTHESIS;ah PARENTHESIS;-1;LATIN SUBSCRIPT d a A;dE;dO;dX;dSCHWA;dH;dK;dL;dM;dN;dP;dS",
    "dT;-3;EURO-CURRENCY g;COLON g;CRUZEIRO g;FRENCH FRANC g;LIRA g;MILL g;NAIRA g;PESETA g",
    "RUPEE g;WON g;NEW SHEQEL g;DONG g;EURO g;KIP g;TUGRIK g;DRACHMA g;GERMAN PENNY g;PESO g",
    "GUARANI g;AUSTRAL g;HRYVNIA g;CEDI g;LIVRE TOURNOIS g;SPESMILO g;TENGE g;INDIAN RUPEE g",
    "TURKISH LIRA g;NORDIC MARK g;MANAT g;RUBLE g;LARI g;BITCOIN g;SOM g;-15;COMBINING o HARPOON i",
    "ah HARPOON i;aLONG q LINE OVERLAY;aSHORT q LINE OVERLAY;aANTICLOCKWISE f i;aCLOCKWISE f i",
    "ao f i;ah f i;aRING OVERLAY;aCLOCKWISE RING OVERLAY;aANTICLOCKWISE RING OVERLAY;at DOTS i",
    "aFOUR DOTS i;aENCLOSING CIRCLE;bSQUARE;bDIAMOND;bCIRCLE BACKSLASH;ao h f i;aENCLOSING SCREEN",
    "bKEYCAP;bUPWARD POINTING TRIANGLE;aREVERSE SOLIDUS OVERLAY;al q v OVERLAY;aANNUITY w",
    "aTRIPLE UNDERDOT;aWIDE BRIDGE i;ar f OVERLAY;aLONG l SOLIDUS OVERLAY",
    "ak HARPOON b BARB DOWNWARDS;ar HARPOON b BARB DOWNWARDS;ao f m;ah f m;aASTERISK i;-15",
    "ACCOUNT OF;ADDRESSED TO THE SUBJECT;DOUBLE-STRUCK c C;DEGREE CELSIUS;CENTRE LINE w;CARE OF",
    "CADA UNA;EULER CONSTANT;SCRUPLE;DEGREE FAHRENHEIT;SCRIPT d G;ac H;BLACK-LETTER c H",
    "DOUBLE-STRUCK c H;PLANCK CONSTANT;bOVER TWO PI;SCRIPT c I;BLACK-LETTER c I;SCRIPT c L;ad L",
    "L B BAR w;DOUBLE-STRUCK c N;NUMERO g;SOUND RECORDING COPYRIGHT;SCRIPT c P;DOUBLE-STRUCK c P",
    "bQ;SCRIPT c R;BLACK-LETTER c R;DOUBLE-STRUCK c R;PRESCRIPTION TAKE;RESPONSE;SERVICE MARK",
    "TELEPHONE g;TRADE MARK g;VERSICLE;DOUBLE-STRUCK c Z;OUNCE g;OHM g;INVERTED OHM g",
    "BLACK-LETTER c Z;TURNED GREEK d a IOTA;KELVIN g;ANGSTROM g;SCRIPT c B;BLACK-LETTER c C",
    "ESTIMATED w;SCRIPT d E;ac E;bF;TURNED c F;SCRIPT c M;ad O;ALEF w;BET w;GIMEL w;DALET w",
    "INFORMATION SOURCE;ROTATED c Q;FACSIMILE g;DOUBLE-STRUCK d PI;bGAMMA;ac GAMMA;bPI",
    "aN-ARY SUMMATION;TURNED SANS-SERIF c G;cL;REVERSED SANS-SERIF c L;TURNED SANS-SERIF c Y",
    "DOUBLE-STRUCK ITALIC c D;bd D;cE;cI;cJ;PROPERTY LINE;TURNED AMPERSAND;PER g;AKTIESELSKAB",
    "TURNED d F;SYMBOL FOR SAMARITAN SOURCE;VULGAR FRACTION ONE SEVENTH;cNINTH;cTENTH;cTHIRD",
    "bTWO THIRDS;bONE FIFTH;bTWO FIFTHS;bt FIFTHS;bFOUR FIFTHS;bONE SIXTH;bFIVE SIXTHS;bONE EIGHTH",
    "bt EIGHTHS;bFIVE EIGHTHS;bSEVEN EIGHTHS;FRACTION NUMERATOR ONE;ROMAN NUMERAL ONE;bTWO;bt",
    "bFOUR;bFIVE;bSIX;bSEVEN;bEIGHT;bNINE;bTEN;bELEVEN;bTWELVE;bFIFTY;bONE HUNDRED;bFIVE HUNDRED",
    "bONE THOUSAND;SMALL ROMAN NUMERAL ONE;cTWO;ct;cFOUR;cFIVE;cSIX;cSEVEN;cEIGHT;cNINE;cTEN",
    "cELEVEN;cTWELVE;cFIFTY;cONE HUNDRED;cFIVE HUNDRED;cONE THOUSAND",
    "ROMAN NUMERAL ONE THOUSAND C D;bFIVE THOUSAND;bTEN THOUSAND;bREVERSED ONE HUNDRED",
    "LATIN d a REVERSED C;ROMAN NUMERAL SIX LATE e;bFIFTY EARLY e;cTHOUSAND;bONE HUNDRED THOUSAND",
    "VULGAR FRACTION ZERO THIRDS;TURNED DIGIT TWO;bt;-4;LEFTWARDS f;UPWARDS f;RIGHTWARDS f",
    "DOWNWARDS f;LEFT h f;UP DOWN f;NORTH WEST f;aEAST f;SOUTH EAST f;aWEST f;LEFTWARDS f b v",
    "RIGHTWARDS f b v;LEFTWARDS WAVE f;RIGHTWARDS WAVE f;LEFTWARDS TWO HEADED f",
    "UPWARDS TWO HEADED f;RIGHTWARDS TWO HEADED f;DOWNWARDS TWO HEADED f;LEFTWARDS f b TAIL",
    "RIGHTWARDS f b TAIL;LEFTWARDS f FROM BAR;UPWARDS f FROM BAR;RIGHTWARDS f FROM BAR",
    "DOWNWARDS f FROM BAR;UP DOWN f b BASE;LEFTWARDS f b HOOK;RIGHTWARDS f b HOOK",
    "LEFTWARDS f b LOOP;RIGHTWARDS f b LOOP;LEFT h WAVE f;bf b v;DOWNWARDS ZIGZAG f",
    "UPWARDS f b TIP r;dk;DOWNWARDS f b TIP r;dk;RIGHTWARDS f b CORNER DOWNWARDS",
    "DOWNWARDS f b CORNER r;ANTICLOCKWISE TOP SEMICIRCLE f;CLOCKWISE TOP SEMICIRCLE f",
    "NORTH WEST f TO LONG BAR;LEFTWARDS f TO BAR OVER k f TO BAR;ANTICLOCKWISE OPEN CIRCLE f",
    "CLOCKWISE OPEN CIRCLE f;LEFTWARDS HARPOON b BARB UPWARDS;dDOWNWARDS;UPWARDS HARPOON b BARB k",
    "dr;RIGHTWARDS HARPOON b BARB UPWARDS;dDOWNWARDS;DOWNWARDS HARPOON b BARB k;dr",
    "RIGHTWARDS f OVER r f;UPWARDS f r OF DOWNWARDS f;LEFTWARDS f OVER k f;aPAIRED ARROWS",
    "UPWARDS PAIRED ARROWS;RIGHTWARDS PAIRED ARROWS;DOWNWARDS PAIRED ARROWS",
    "LEFTWARDS HARPOON OVER k HARPOON;RIGHTWARDS HARPOON OVER r HARPOON;LEFTWARDS l f b v",
    "LEFT h l f b v;RIGHTWARDS l f b v;LEFTWARDS l f;UPWARDS l f;RIGHTWARDS l f;DOWNWARDS l f",
    "LEFT h l f;UP DOWN l f;NORTH WEST l f;aEAST l f;SOUTH EAST l f;aWEST l f;LEFTWARDS TRIPLE f",
    "RIGHTWARDS TRIPLE f;LEFTWARDS SQUIGGLE f;RIGHTWARDS SQUIGGLE f;UPWARDS f b l v",
    "DOWNWARDS f b l v;LEFTWARDS DASHED f;UPWARDS DASHED f;RIGHTWARDS DASHED f;DOWNWARDS DASHED f",
    "LEFTWARDS f TO BAR;RIGHTWARDS f TO BAR;LEFTWARDS z f;UPWARDS z f;RIGHTWARDS z f;DOWNWARDS z f",
    "UPWARDS z f FROM BAR;cON PEDESTAL;eb y BAR;fq BAR;bl f;dON PEDESTAL;RIGHTWARDS z f FROM WALL",
    "NORTH WEST f TO CORNER;SOUTH EAST f TO CORNER;UP DOWN z f;RIGHT f b d CIRCLE",
    "DOWNWARDS f r OF UPWARDS f;THREE k ARROWS;LEFTWARDS f b q v;RIGHTWARDS f b q v;LEFT h f b q v",
    "LEFTWARDS f b l q v;RIGHTWARDS f b l q v;LEFT h f b l q v;LEFTWARDS OPEN-HEADED f",
    "RIGHTWARDS OPEN-HEADED f;LEFT h OPEN-HEADED f;FOR ALL;COMPLEMENT;PARTIAL DIFFERENTIAL",
    "THERE EXISTS;aDOES NOT EXIST;EMPTY SET;INCREMENT;NABLA;ELEMENT OF;NOT AN ELEMENT OF",
    "SMALL ELEMENT OF;CONTAINS AS MEMBER;DOES NOT CONTAIN AS MEMBER;SMALL CONTAINS AS MEMBER",
    "END OF PROOF;N-ARY PRODUCT;aCOPRODUCT;aSUMMATION;MINUS g;MINUS-OR-PLUS g;DOT PLUS",
    "DIVISION SLASH;SET MINUS;ASTERISK OPERATOR;RING OPERATOR;BULLET OPERATOR;SQUARE ROOT",
    "CUBE ROOT;FOURTH ROOT;PROPORTIONAL TO;INFINITY;RIGHT ANGLE;ANGLE;MEASURED ANGLE",
    "SPHERICAL ANGLE;DIVIDES;DOES NOT DIVIDE;PARALLEL TO;NOT PARALLEL TO;LOGICAL p;aOR",
    "INTERSECTION;UNION;INTEGRAL;DOUBLE INTEGRAL;TRIPLE INTEGRAL;CONTOUR INTEGRAL;SURFACE INTEGRAL",
    "VOLUME INTEGRAL;CLOCKWISE INTEGRAL;aCONTOUR INTEGRAL;ANTICLOCKWISE CONTOUR INTEGRAL;THEREFORE",
    "BECAUSE;RATIO;PROPORTION;DOT MINUS;EXCESS;GEOMETRIC PROPORTION;HOMOTHETIC;TILDE OPERATOR",
    "REVERSED TILDE;INVERTED LAZY S;SINE WAVE;WREATH PRODUCT;NOT TILDE;MINUS TILDE",
    "ASYMPTOTICALLY EQUAL TO;NOT ASYMPTOTICALLY EQUAL TO;APPROXIMATELY EQUAL TO",
    "aBUT NOT ACTUALLY EQUAL TO;NEITHER APPROXIMATELY NOR ACTUALLY EQUAL TO;ALMOST EQUAL TO",
    "NOT ALMOST EQUAL TO;ALMOST EQUAL OR EQUAL TO;TRIPLE TILDE;ALL EQUAL TO;EQUIVALENT TO",
    "GEOMETRICALLY EQUIVALENT TO;DIFFERENCE BETWEEN;APPROACHES THE LIMIT;GEOMETRICALLY EQUAL TO",
    "APPROXIMATELY EQUAL TO OR THE IMAGE OF;IMAGE OF OR APPROXIMATELY EQUAL TO;COLON EQUALS",
    "EQUALS COLON;RING IN EQUAL TO;aEQUAL TO;CORRESPONDS TO;ESTIMATES;EQUIANGULAR TO;STAR EQUALS",
    "DELTA EQUAL TO;EQUAL TO BY DEFINITION;MEASURED BY;QUESTIONED EQUAL TO;NOT EQUAL TO",
    "IDENTICAL TO;NOT IDENTICAL TO;STRICTLY EQUIVALENT TO;LESS-THAN OR EQUAL TO",
    "GREATER-THAN OR EQUAL TO;LESS-THAN OVER EQUAL TO;GREATER-THAN OVER EQUAL TO",
    "LESS-THAN BUT NOT EQUAL TO;GREATER-THAN BUT NOT EQUAL TO;MUCH LESS-THAN;aGREATER-THAN;BETWEEN",
    "NOT EQUIVALENT TO;aLESS-THAN;aGREATER-THAN;NEITHER LESS-THAN NOR EQUAL TO",
    "aGREATER-THAN NOR EQUAL TO;LESS-THAN OR EQUIVALENT TO;GREATER-THAN OR EQUIVALENT TO",
    "NEITHER LESS-THAN NOR EQUIVALENT TO;aGREATER-THAN NOR EQUIVALENT TO;LESS-THAN OR GREATER-THAN",
    "GREATER-THAN OR LESS-THAN;NEITHER LESS-THAN NOR GREATER-THAN;aGREATER-THAN NOR LESS-THAN",
    "PRECEDES;SUCCEEDS;PRECEDES OR EQUAL TO;SUCCEEDS OR EQUAL TO;PRECEDES OR EQUIVALENT TO",
    "SUCCEEDS OR EQUIVALENT TO;DOES NOT PRECEDE;bSUCCEED;SUBSET OF;SUPERSET OF;NOT A SUBSET OF",
    "bSUPERSET OF;SUBSET OF OR EQUAL TO;SUPERSET OF OR EQUAL TO;NEITHER A SUBSET OF NOR EQUAL TO",
    "bSUPERSET OF NOR EQUAL TO;SUBSET OF b NOT EQUAL TO;SUPERSET OF b NOT EQUAL TO;MULTISET",
    "aMULTIPLICATION;aUNION;SQUARE IMAGE OF;aORIGINAL OF;aIMAGE OF OR EQUAL TO",
    "aORIGINAL OF OR EQUAL TO;aCAP;aCUP;CIRCLED PLUS;aMINUS;aTIMES;aDIVISION SLASH;aDOT OPERATOR",
    "aRING OPERATOR;aASTERISK OPERATOR;aEQUALS;aDASH;SQUARED PLUS;aMINUS;aTIMES;aDOT OPERATOR",
    "RIGHT TACK;LEFT TACK;DOWN TACK;UP TACK;ASSERTION;MODELS;TRUE;FORCES;TRIPLE q BAR h TURNSTILE",
    "DOUBLE q BAR l h TURNSTILE;DOES NOT PROVE;NOT TRUE;DOES NOT FORCE",
    "NEGATED l q BAR l h TURNSTILE;PRECEDES UNDER RELATION;SUCCEEDS UNDER RELATION",
    "NORMAL SUBGROUP OF;CONTAINS AS NORMAL SUBGROUP;NORMAL SUBGROUP OF OR EQUAL TO",
    "CONTAINS AS NORMAL SUBGROUP OR EQUAL TO;ORIGINAL OF;IMAGE OF;MULTIMAP",
    "HERMITIAN CONJUGATE MATRIX;INTERCALATE;XOR;NAND;NOR;RIGHT ANGLE b ARC;aTRIANGLE",
    "N-ARY LOGICAL p;bOR;aINTERSECTION;aUNION;DIAMOND OPERATOR;DOT OPERATOR;STAR OPERATOR",
    "DIVISION TIMES;BOWTIE;LEFT NORMAL FACTOR SEMIDIRECT PRODUCT",
    "RIGHT NORMAL FACTOR SEMIDIRECT PRODUCT;LEFT SEMIDIRECT PRODUCT;RIGHT SEMIDIRECT PRODUCT",
    "REVERSED TILDE EQUALS;CURLY LOGICAL OR;bp;DOUBLE SUBSET;aSUPERSET;aINTERSECTION;aUNION",
    "PITCHFORK;EQUAL p PARALLEL TO;LESS-THAN b DOT;GREATER-THAN b DOT;VERY MUCH LESS-THAN",
    "bGREATER-THAN;LESS-THAN EQUAL TO OR GREATER-THAN;GREATER-THAN EQUAL TO OR LESS-THAN",
    "EQUAL TO OR LESS-THAN;cGREATER-THAN;cPRECEDES;cSUCCEEDS;DOES NOT PRECEDE OR EQUAL",
    "bSUCCEED OR EQUAL;NOT SQUARE IMAGE OF OR EQUAL TO;bORIGINAL OF OR EQUAL TO",
    "SQUARE IMAGE OF OR NOT EQUAL TO;aORIGINAL OF OR NOT EQUAL TO;LESS-THAN BUT NOT EQUIVALENT TO",
    "GREATER-THAN BUT NOT EQUIVALENT TO;PRECEDES BUT NOT EQUIVALENT TO",
    "SUCCEEDS BUT NOT EQUIVALENT TO;NOT NORMAL SUBGROUP OF;DOES NOT CONTAIN AS NORMAL SUBGROUP",
    "NOT NORMAL SUBGROUP OF OR EQUAL TO;DOES NOT CONTAIN AS NORMAL SUBGROUP OR EQUAL",
    "VERTICAL ELLIPSIS;MIDLINE y ELLIPSIS;UP h DIAGONAL ELLIPSIS;DOWN h DIAGONAL ELLIPSIS",
    "ELEMENT OF b LONG y v;cq BAR AT END OF y v;SMALL ELEMENT OF b q BAR AT END OF y v",
    "ELEMENT OF b DOT i;cOVERBAR;SMALL ELEMENT OF b OVERBAR;ELEMENT OF b UNDERBAR;cTWO y STROKES",
    "CONTAINS b LONG y v;bq BAR AT END OF y v;SMALL CONTAINS b q BAR AT END OF y v",
    "CONTAINS b OVERBAR;SMALL CONTAINS b OVERBAR;Z NOTATION BAG MEMBERSHIP;DIAMETER g;ELECTRIC f",
    "HOUSE;UP ARROWHEAD;DOWN ARROWHEAD;PROJECTIVE;PERSPECTIVE;WAVY LINE;LEFT CEILING;RIGHT CEILING",
    "LEFT FLOOR;RIGHT FLOOR;BOTTOM h CROP;ao CROP;TOP h CROP;ao CROP;REVERSED NOT g;SQUARE LOZENGE",
    "ARC;SEGMENT;SECTOR;TELEPHONE RECORDER;POSITION INDICATOR;VIEWDATA SQUARE;PLACE OF INTEREST g",
    "TURNED NOT g;WATCH;HOURGLASS;TOP o CORNER;ah CORNER;BOTTOM o CORNER;ah CORNER",
    "TOP HALF INTEGRAL;BOTTOM HALF INTEGRAL;FROWN;SMILE;UP ARROWHEAD BETWEEN TWO y BARS;OPTION KEY",
    "ERASE TO THE h;X IN A RECTANGLE BOX;KEYBOARD;LEFT-POINTING ANGLE BRACKET",
    "RIGHT-POINTING ANGLE BRACKET;ERASE TO THE o;BENZENE RING;CYLINDRICITY;ALL AROUND-PROFILE",
    "SYMMETRY;TOTAL RUNOUT;DIMENSION ORIGIN;CONICAL TAPER;SLOPE;COUNTERBORE;COUNTERSINK",
    "APL FUNCTIONAL w I-BEAM;cSQUISH QUAD;cQUAD EQUAL;dDIVIDE;dDIAMOND;dJOT;dCIRCLE;cCIRCLE STILE",
    "dJOT;cSLASH BAR;cBACKSLASH BAR;cQUAD SLASH;dBACKSLASH;dLESS-THAN;dGREATER-THAN;cr VANE",
    "ck VANE;cQUAD r f;dk f;cCIRCLE BACKSLASH;cDOWN TACK UNDERBAR;cDELTA STILE;cQUAD DOWN CARET",
    "dDELTA;cDOWN TACK JOT;cUPWARDS VANE;cQUAD UPWARDS f;cUP TACK OVERBAR;cDEL STILE",
    "cQUAD UP CARET;dDEL;cUP TACK JOT;cDOWNWARDS VANE;cQUAD DOWNWARDS f;cQUOTE UNDERBAR",
    "cDELTA UNDERBAR;cDIAMOND UNDERBAR;cJOT UNDERBAR;cCIRCLE UNDERBAR;cUP SHOE JOT;cQUOTE QUAD",
    "cCIRCLE STAR;cQUAD COLON;cUP TACK DIAERESIS;cDEL DIAERESIS;cSTAR DIAERESIS;cJOT DIAERESIS",
    "cCIRCLE DIAERESIS;cDOWN SHOE STILE;co SHOE STILE;cTILDE DIAERESIS;cGREATER-THAN DIAERESIS",
    "cCOMMA BAR;cDEL TILDE;cZILDE;cSTILE TILDE;cSEMICOLON UNDERBAR;cQUAD NOT EQUAL;dQUESTION",
    "cDOWN CARET TILDE;cUP CARET TILDE;cIOTA;cRHO;cOMEGA;cALPHA UNDERBAR;cEPSILON UNDERBAR",
    "cIOTA UNDERBAR;cOMEGA UNDERBAR;cALPHA;NOT CHECK MARK;RIGHT ANGLE b DOWNWARDS ZIGZAG f",
    "SHOULDERED OPEN BOX;BELL w;VERTICAL LINE b MIDDLE DOT;INSERTION w;CONTINUOUS UNDERLINE w",
    "DISCONTINUOUS UNDERLINE w;EMPHASIS w;COMPOSITION w;WHITE SQUARE b CENTRE q LINE;ENTER w",
    "ALTERNATIVE KEY w;HELM w;CIRCLED y BAR b NOTCH;aTRIANGLE DOWN;BROKEN CIRCLE b NORTHWEST f",
    "UNDO w;MONOSTABLE w;HYSTERESIS w;OPEN-CIRCUIT-OUTPUT H-TYPE w;aL-TYPE w",
    "PASSIVE-PULL-DOWN-OUTPUT w;PASSIVE-PULL-UP-OUTPUT w;DIRECT CURRENT w e TWO",
    "SOFTWARE-FUNCTION w;APL FUNCTIONAL w QUAD;DECIMAL SEPARATOR KEY w;PREVIOUS PAGE;NEXT PAGE",
    "PRINT SCREEN w;CLEAR SCREEN w;LEFT PARENTHESIS UPPER HOOK;bEXTENSION;bLOWER HOOK",
    "RIGHT PARENTHESIS UPPER HOOK;bEXTENSION;bLOWER HOOK;LEFT SQUARE BRACKET UPPER CORNER",
    "cEXTENSION;cLOWER CORNER;RIGHT SQUARE BRACKET UPPER CORNER;cEXTENSION;cLOWER CORNER",
    "LEFT CURLY BRACKET UPPER HOOK;cMIDDLE PIECE;cLOWER HOOK;CURLY BRACKET EXTENSION",
    "RIGHT CURLY BRACKET UPPER HOOK;cMIDDLE PIECE;cLOWER HOOK;INTEGRAL EXTENSION",
    "HORIZONTAL LINE EXTENSION;UPPER o OR LOWER h CURLY BRACKET SECTION",
    "ah OR LOWER o CURLY BRACKET SECTION;SUMMATION TOP;aBOTTOM;TOP SQUARE BRACKET",
    "BOTTOM SQUARE BRACKET;cOVER TOP SQUARE BRACKET;RADICAL w BOTTOM;LEFT q BOX LINE",
    "RIGHT q BOX LINE;HORIZONTAL SCAN LINE-1;bLINE-3;bLINE-7;bLINE-9;DENTISTRY w LIGHT q p TOP h",
    "eBOTTOM h;db CIRCLE;cDOWN p y b CIRCLE;cUP p y b CIRCLE;cq b TRIANGLE;cDOWN p y b TRIANGLE",
    "cUP p y b TRIANGLE;cq p WAVE;cDOWN p y b WAVE;cUP p y b WAVE;cDOWN p y;cUP p y;cq p TOP o",
    "eBOTTOM o;SQUARE FOOT;RETURN w;EJECT w;VERTICAL LINE EXTENSION;METRICAL BREVE",
    "aLONG OVER SHORT;aSHORT OVER LONG;aLONG OVER TWO SHORTS;aTWO SHORTS OVER LONG;cJOINED",
    "aTRISEME;aTETRASEME;aPENTASEME;EARTH GROUND;FUSE;TOP PARENTHESIS;BOTTOM PARENTHESIS",
    "TOP CURLY BRACKET;BOTTOM CURLY BRACKET;TOP TORTOISE SHELL BRACKET",
    "BOTTOM TORTOISE SHELL BRACKET;WHITE TRAPEZIUM;BENZENE RING b CIRCLE;STRAIGHTNESS;FLATNESS",
    "AC CURRENT;ELECTRICAL INTERSECTION;DECIMAL EXPONENT w;BLACK RIGHT-POINTING l TRIANGLE",
    "aLEFT-POINTING l TRIANGLE;aUP-POINTING l TRIANGLE;aDOWN-POINTING l TRIANGLE",
    "aRIGHT-POINTING l TRIANGLE b q BAR;aLEFT-POINTING l TRIANGLE b q BAR",
    "aRIGHT-POINTING TRIANGLE b l q BAR;ALARM CLOCK;STOPWATCH;TIMER CLOCK;HOURGLASS b FLOWING SAND",
    "BLACK MEDIUM LEFT-POINTING TRIANGLE;bRIGHT-POINTING TRIANGLE;bUP-POINTING TRIANGLE",
    "bDOWN-POINTING TRIANGLE;DOUBLE q BAR;BLACK SQUARE FOR STOP;aCIRCLE FOR RECORD;POWER w",
    "aON-OFF w;aON w;aSLEEP w;OBSERVER EYE w;SYMBOL FOR NULL;bSTART OF HEADING;dTEXT;bEND OF TEXT",
    "dTRANSMISSION;bENQUIRY;bACKNOWLEDGE;bBELL;bBACKSPACE;by TABULATION;bLINE FEED;bq TABULATION",
    "be FEED;bCARRIAGE RETURN;bSHIFT OUT;cIN;bDATA LINK ESCAPE;bDEVICE CONTROL ONE;dTWO;dt;dFOUR",
    "bNEGATIVE ACKNOWLEDGE;bSYNCHRONOUS IDLE;bEND OF TRANSMISSION BLOCK;bCANCEL;bEND OF MEDIUM",
    "bSUBSTITUTE;bESCAPE;bFILE SEPARATOR;bGROUP SEPARATOR;bRECORD SEPARATOR;bUNIT SEPARATOR;bSPACE",
    "bDELETE;BLANK w;OPEN BOX;SYMBOL FOR NEWLINE;bDELETE e TWO;bSUBSTITUTE e TWO"]),
   (0x2440, [
    "OCR HOOK;aCHAIR;aFORK;aINVERTED FORK;aBELT BUCKLE;aBOW TIE;aBRANCH BANK IDENTIFICATION",
    "aAMOUNT OF CHECK;aDASH;aCUSTOMER ACCOUNT NUMBER;al BACKSLASH"]),
   (0x2460, [
    "CIRCLED DIGIT ONE;bTWO;bt;bFOUR;bFIVE;bSIX;bSEVEN;bEIGHT;bNINE;aNUMBER TEN;bELEVEN;bTWELVE",
    "bTHIRTEEN;bFOURTEEN;bFIFTEEN;bSIXTEEN;bSEVENTEEN;bEIGHTEEN;bNINETEEN;bTWENTY",
    "PARENTHESIZED DIGIT ONE;bTWO;bt;bFOUR;bFIVE;bSIX;bSEVEN;bEIGHT;bNINE;aNUMBER TEN;bELEVEN",
    "bTWELVE;bTHIRTEEN;bFOURTEEN;bFIFTEEN;bSIXTEEN;bSEVENTEEN;bEIGHTEEN;bNINETEEN;bTWENTY",
    "DIGIT ONE FULL STOP;aTWO FULL STOP;at FULL STOP;aFOUR FULL STOP;aFIVE FULL STOP",
    "aSIX FULL STOP;aSEVEN FULL STOP;aEIGHT FULL STOP;aNINE FULL STOP;NUMBER TEN FULL STOP",
    "aELEVEN FULL STOP;aTWELVE FULL STOP;aTHIRTEEN FULL STOP;aFOURTEEN FULL STOP",
    "aFIFTEEN FULL STOP;aSIXTEEN FULL STOP;aSEVENTEEN FULL STOP;aEIGHTEEN FULL STOP",
    "aNINETEEN FULL STOP;aTWENTY FULL STOP;PARENTHESIZED LATIN d a A;dB;dC;dD;dE;dF;dG;dH;dI;dJ;dK",
    "dL;dM;dN;dO;dP;dQ;dR;dS;dT;dU;dV;dW;dX;dY;dZ;CIRCLED LATIN c a A;dB;dC;dD;dE;dF;dG;dH;dI;dJ",
    "dK;dL;dM;dN;dO;dP;dQ;dR;dS;dT;dU;dV;dW;dX;dY;dZ;bd a A;dB;dC;dD;dE;dF;dG;dH;dI;dJ;dK;dL;dM;dN",
    "dO;dP;dQ;dR;dS;dT;dU;dV;dW;dX;dY;dZ;aDIGIT ZERO;NEGATIVE CIRCLED NUMBER ELEVEN;cTWELVE",
    "cTHIRTEEN;cFOURTEEN;cFIFTEEN;cSIXTEEN;cSEVENTEEN;cEIGHTEEN;cNINETEEN;cTWENTY",
    "DOUBLE CIRCLED DIGIT ONE;cTWO;ct;cFOUR;cFIVE;cSIX;cSEVEN;cEIGHT;cNINE;bNUMBER TEN",
    "NEGATIVE CIRCLED DIGIT ZERO;BOX DRAWINGS LIGHT y;bHEAVY y;bLIGHT q;bHEAVY q",
    "bLIGHT TRIPLE DASH y;bHEAVY TRIPLE DASH y;bLIGHT TRIPLE DASH q;bHEAVY TRIPLE DASH q",
    "bLIGHT QUADRUPLE DASH y;bHEAVY QUADRUPLE DASH y;bLIGHT QUADRUPLE DASH q",
    "bHEAVY QUADRUPLE DASH q;bLIGHT DOWN p h;bDOWN LIGHT p h HEAVY;cHEAVY p h LIGHT",
    "bHEAVY DOWN p h;bLIGHT DOWN p o;bDOWN LIGHT p o HEAVY;cHEAVY p o LIGHT;bHEAVY DOWN p o",
    "bLIGHT UP p h;bUP LIGHT p h HEAVY;cHEAVY p h LIGHT;bHEAVY UP p h;bLIGHT UP p o",
    "bUP LIGHT p o HEAVY;cHEAVY p o LIGHT;bHEAVY UP p o;bLIGHT q p h;bq LIGHT p h HEAVY",
    "bUP HEAVY p h DOWN LIGHT;bDOWN HEAVY p h UP LIGHT;bq HEAVY p h LIGHT;bDOWN LIGHT p h UP HEAVY",
    "bUP LIGHT p h DOWN HEAVY;bHEAVY q p h;bLIGHT q p o;bq LIGHT p o HEAVY",
    "bUP HEAVY p o DOWN LIGHT;bDOWN HEAVY p o UP LIGHT;bq HEAVY p o LIGHT;bDOWN LIGHT p o UP HEAVY",
    "bUP LIGHT p o DOWN HEAVY;bHEAVY q p o;bLIGHT DOWN p y;bo HEAVY p h DOWN LIGHT",
    "bh HEAVY p o DOWN LIGHT;bDOWN LIGHT p y HEAVY;cHEAVY p y LIGHT;bh LIGHT p o DOWN HEAVY",
    "bo LIGHT p h DOWN HEAVY;bHEAVY DOWN p y;bLIGHT UP p y;bo HEAVY p h UP LIGHT",
    "bh HEAVY p o UP LIGHT;bUP LIGHT p y HEAVY;cHEAVY p y LIGHT;bh LIGHT p o UP HEAVY",
    "bo LIGHT p h UP HEAVY;bHEAVY UP p y;bLIGHT q p y;bo HEAVY p h q LIGHT;bh HEAVY p o q LIGHT",
    "bq LIGHT p y HEAVY;bUP HEAVY p DOWN y LIGHT;bDOWN HEAVY p UP y LIGHT;bq HEAVY p y LIGHT",
    "bo UP HEAVY p h DOWN LIGHT;bh UP HEAVY p o DOWN LIGHT;bo DOWN HEAVY p h UP LIGHT",
    "bh DOWN HEAVY p o UP LIGHT;bDOWN LIGHT p UP y HEAVY;bUP LIGHT p DOWN y HEAVY",
    "bh LIGHT p o q HEAVY;bo LIGHT p h q HEAVY;bHEAVY q p y;bLIGHT l DASH y;bHEAVY l DASH y",
    "bLIGHT l DASH q;bHEAVY l DASH q;bl y;cq;bDOWN SINGLE p h l;cl p h SINGLE;bl DOWN p h",
    "bDOWN SINGLE p o l;cl p o SINGLE;bl DOWN p o;bUP SINGLE p h l;cl p h SINGLE;bl UP p h",
    "bUP SINGLE p o l;cl p o SINGLE;bl UP p o;bq SINGLE p h l;cl p h SINGLE;bl q p h",
    "bq SINGLE p o l;cl p o SINGLE;bl q p o;bDOWN SINGLE p y l;cl p y SINGLE;bl DOWN p y",
    "bUP SINGLE p y l;cl p y SINGLE;bl UP p y;bq SINGLE p y l;cl p y SINGLE;bl q p y",
    "bLIGHT ARC DOWN p h;fo;dUP p o;fh;cDIAGONAL UPPER h TO LOWER o;eo TO LOWER h;dCROSS;co;cUP;ch",
    "cDOWN;bHEAVY o;cUP;ch;cDOWN;bLIGHT o p HEAVY h;cUP p HEAVY DOWN;bHEAVY o p LIGHT h",
    "cUP p LIGHT DOWN;UPPER HALF BLOCK;LOWER ONE EIGHTH BLOCK;bQUARTER BLOCK;at EIGHTHS BLOCK",
    "aHALF BLOCK;aFIVE EIGHTHS BLOCK;at QUARTERS BLOCK;aSEVEN EIGHTHS BLOCK;FULL BLOCK",
    "LEFT SEVEN EIGHTHS BLOCK;at QUARTERS BLOCK;aFIVE EIGHTHS BLOCK;aHALF BLOCK;at EIGHTHS BLOCK",
    "aONE QUARTER BLOCK;bEIGHTH BLOCK;RIGHT HALF BLOCK;LIGHT SHADE;MEDIUM SHADE;DARK SHADE",
    "UPPER ONE EIGHTH BLOCK;RIGHT ONE EIGHTH BLOCK;QUADRANT LOWER o;bh;aUPPER o",
    "cp LOWER o p LOWER h;eh;dUPPER h p LOWER o;hh;bh;cp LOWER o;fp LOWER h;BLACK SQUARE",
    "WHITE SQUARE;bb ROUNDED CORNERS;bCONTAINING x d SQUARE;SQUARE b y FILL;bq FILL",
    "bORTHOGONAL CROSSHATCH FILL;bUPPER o TO LOWER h FILL;ch TO LOWER o FILL",
    "bDIAGONAL CROSSHATCH FILL;BLACK d SQUARE;WHITE d SQUARE;BLACK RECTANGLE;WHITE RECTANGLE",
    "BLACK q RECTANGLE;WHITE q RECTANGLE;BLACK PARALLELOGRAM;WHITE PARALLELOGRAM",
    "BLACK UP-POINTING TRIANGLE;WHITE UP-POINTING TRIANGLE;BLACK UP-POINTING d TRIANGLE",
    "WHITE UP-POINTING d TRIANGLE;BLACK RIGHT-POINTING TRIANGLE;WHITE RIGHT-POINTING TRIANGLE",
    "BLACK RIGHT-POINTING d TRIANGLE;WHITE RIGHT-POINTING d TRIANGLE;BLACK RIGHT-POINTING POINTER",
    "WHITE RIGHT-POINTING POINTER;BLACK DOWN-POINTING TRIANGLE;WHITE DOWN-POINTING TRIANGLE",
    "BLACK DOWN-POINTING d TRIANGLE;WHITE DOWN-POINTING d TRIANGLE;BLACK LEFT-POINTING TRIANGLE",
    "WHITE LEFT-POINTING TRIANGLE;BLACK LEFT-POINTING d TRIANGLE;WHITE LEFT-POINTING d TRIANGLE",
    "BLACK LEFT-POINTING POINTER;WHITE LEFT-POINTING POINTER;BLACK DIAMOND;WHITE DIAMOND",
    "bCONTAINING x d DIAMOND;FISHEYE;LOZENGE;WHITE CIRCLE;DOTTED CIRCLE;CIRCLE b q FILL;BULLSEYE",
    "BLACK CIRCLE;CIRCLE b o HALF x;bh HALF x;bLOWER HALF x;bUPPER HALF x;ch QUADRANT x",
    "bALL BUT UPPER o QUADRANT x;LEFT HALF x CIRCLE;RIGHT HALF x CIRCLE;INVERSE BULLET;az CIRCLE",
    "UPPER HALF INVERSE z CIRCLE;LOWER HALF INVERSE z CIRCLE;UPPER o QUADRANT CIRCULAR ARC",
    "ah QUADRANT CIRCULAR ARC;LOWER h QUADRANT CIRCULAR ARC;ao QUADRANT CIRCULAR ARC",
    "UPPER HALF CIRCLE;LOWER HALF CIRCLE;BLACK LOWER h TRIANGLE;bo TRIANGLE;aUPPER o TRIANGLE",
    "bh TRIANGLE;WHITE BULLET;SQUARE b o HALF x;bh HALF x;bUPPER o DIAGONAL HALF x",
    "bLOWER h DIAGONAL HALF x;WHITE SQUARE b q BISECTING LINE;aUP-POINTING TRIANGLE b DOT",
    "UP-POINTING TRIANGLE b o HALF x;ch HALF x;LARGE CIRCLE;WHITE SQUARE b UPPER o QUADRANT",
    "cLOWER o QUADRANT;dh QUADRANT;cUPPER h QUADRANT;aCIRCLE b UPPER o QUADRANT;cLOWER o QUADRANT",
    "dh QUADRANT;cUPPER h QUADRANT;UPPER o TRIANGLE;ah TRIANGLE;LOWER o TRIANGLE",
    "WHITE MEDIUM SQUARE;BLACK MEDIUM SQUARE;WHITE MEDIUM d SQUARE;BLACK MEDIUM d SQUARE",
    "LOWER h TRIANGLE;BLACK SUN b RAYS;CLOUD;UMBRELLA;SNOWMAN;COMET;BLACK STAR;WHITE STAR",
    "LIGHTNING;THUNDERSTORM;SUN;ASCENDING NODE;DESCENDING NODE;CONJUNCTION;OPPOSITION",
    "BLACK TELEPHONE;WHITE TELEPHONE;BALLOT BOX;bb CHECK;cX;SALTIRE;UMBRELLA b RAIN DROPS",
    "HOT BEVERAGE;WHITE SHOGI PIECE;BLACK SHOGI PIECE;SHAMROCK",
    "REVERSED ROTATED FLORAL HEART BULLET;BLACK o POINTING INDEX;ah POINTING INDEX",
    "WHITE o POINTING INDEX;aUP POINTING INDEX;ah POINTING INDEX;aDOWN POINTING INDEX",
    "SKULL p CROSSBONES;CAUTION g;RADIOACTIVE g;BIOHAZARD g;CADUCEUS;ANKH;ORTHODOX CROSS;CHI RHO",
    "CROSS OF LORRAINE;bJERUSALEM;STAR p CRESCENT;FARSI w;ADI SHAKTI;HAMMER p SICKLE;PEACE w",
    "YIN YANG;TRIGRAM FOR HEAVEN;bLAKE;bFIRE;bTHUNDER;bWIND;bWATER;bMOUNTAIN;bEARTH",
    "WHEEL OF DHARMA;WHITE FROWNING FACE;aSMILING FACE;BLACK SMILING FACE;WHITE SUN b RAYS",
    "FIRST QUARTER MOON;LAST QUARTER MOON;MERCURY;FEMALE g;EARTH;MALE g;JUPITER;SATURN;URANUS",
    "NEPTUNE;PLUTO;ARIES;TAURUS;GEMINI;CANCER;LEO;VIRGO;LIBRA;SCORPIUS;SAGITTARIUS;CAPRICORN",
    "AQUARIUS;PISCES;WHITE CHESS KING;bQUEEN;bROOK;bBISHOP;bKNIGHT;bPAWN;BLACK CHESS KING;bQUEEN",
    "bROOK;bBISHOP;bKNIGHT;bPAWN;aSPADE SUIT;WHITE HEART SUIT;aDIAMOND SUIT;BLACK CLUB SUIT",
    "WHITE SPADE SUIT;BLACK HEART SUIT;aDIAMOND SUIT;WHITE CLUB SUIT;HOT SPRINGS;QUARTER NOTE",
    "EIGHTH NOTE;BEAMED EIGHTH NOTES;aSIXTEENTH NOTES;MUSIC FLAT g;aNATURAL g;aSHARP g",
    "WEST SYRIAC CROSS;EAST SYRIAC CROSS;UNIVERSAL RECYCLING w;RECYCLING w FOR TYPE-1 PLASTICS",
    "cTYPE-2 PLASTICS;cTYPE-3 PLASTICS;cTYPE-4 PLASTICS;cTYPE-5 PLASTICS;cTYPE-6 PLASTICS",
    "cTYPE-7 PLASTICS;cGENERIC MATERIALS;BLACK UNIVERSAL RECYCLING w;RECYCLED PAPER w",
    "PARTIALLY-RECYCLED PAPER w;PERMANENT PAPER g;WHEELCHAIR w;DIE FACE-1;+5;WHITE CIRCLE b DOT h",
    "cTWO DOTS;BLACK CIRCLE b z DOT h;cTWO z DOTS;MONOGRAM FOR YANG;bYIN;DIGRAM FOR GREATER YANG",
    "bLESSER YIN;cYANG;bGREATER YIN;WHITE FLAG;BLACK FLAG;HAMMER p PICK;ANCHOR;CROSSED SWORDS",
    "STAFF OF AESCULAPIUS;SCALES;ALEMBIC;FLOWER;GEAR;STAFF OF HERMES;ATOM w;FLEUR-DE-LIS",
    "OUTLINED z STAR;THREE LINES CONVERGING h;co;WARNING g;HIGH VOLTAGE g;DOUBLED FEMALE g;aMALE g",
    "INTERLOCKED FEMALE p MALE g;MALE p FEMALE g;ab v g;cp MALE p FEMALE g;VERTICAL MALE b v g",
    "HORIZONTAL MALE b v g;MEDIUM z CIRCLE;ax CIRCLE;ad z CIRCLE;MARRIAGE w;DIVORCE w",
    "UNMARRIED PARTNERSHIP w;COFFIN;FUNERAL URN;NEUTER;CERES;PALLAS;JUNO;VESTA;CHIRON",
    "BLACK MOON LILITH;SEXTILE;SEMISEXTILE;QUINCUNX;SESQUIQUADRATE;SOCCER BALL;BASEBALL",
    "SQUARED KEY;WHITE DRAUGHTS MAN;bKING;BLACK DRAUGHTS MAN;bKING;SNOWMAN WITHOUT SNOW",
    "SUN BEHIND CLOUD;RAIN;BLACK SNOWMAN;THUNDER CLOUD p RAIN;TURNED z SHOGI PIECE;ax SHOGI PIECE",
    "WHITE DIAMOND IN SQUARE;CROSSING LANES;DISABLED CAR;OPHIUCHUS;PICK;CAR SLIDING",
    "HELMET b z CROSS;CIRCLED CROSSING LANES;CHAINS;NO ENTRY;ALTERNATE ONE-WAY o WAY TRAFFIC",
    "BLACK TWO-WAY o WAY TRAFFIC;WHITE TWO-WAY o WAY TRAFFIC;BLACK o LANE MERGE;WHITE o LANE MERGE",
    "DRIVE SLOW g;HEAVY z DOWN-POINTING TRIANGLE;LEFT CLOSED ENTRY;SQUARED SALTIRE",
    "FALLING DIAGONAL IN z CIRCLE IN x SQUARE;BLACK TRUCK;RESTRICTED o ENTRY-1;bENTRY-2",
    "ASTRONOMICAL w FOR URANUS;HEAVY CIRCLE b v p TWO DOTS i;PENTAGRAM",
    "RIGHT-HANDED INTERLACED PENTAGRAM;LEFT-HANDED INTERLACED PENTAGRAM;INVERTED PENTAGRAM",
    "BLACK CROSS ON SHIELD;SHINTO SHRINE;CHURCH;CASTLE;HISTORIC SITE;GEAR WITHOUT HUB;ab HANDLES",
    "MAP w FOR LIGHTHOUSE;MOUNTAIN;UMBRELLA ON GROUND;FOUNTAIN;FLAG IN HOLE;FERRY;SAILBOAT",
    "SQUARE FOUR CORNERS;SKIER;ICE SKATE;PERSON b BALL;TENT;JAPANESE BANK w;HEADSTONE GRAVEYARD w",
    "FUEL PUMP;CUP ON x SQUARE;WHITE FLAG b y MIDDLE x STRIPE;BLACK SAFETY SCISSORS",
    "UPPER BLADE SCISSORS;BLACK SCISSORS;LOWER BLADE SCISSORS;WHITE SCISSORS;aHEAVY CHECK MARK",
    "TELEPHONE LOCATION g;TAPE DRIVE;AIRPLANE;ENVELOPE;RAISED FIST;aHAND;VICTORY HAND;WRITING HAND",
    "LOWER h PENCIL;PENCIL;UPPER h PENCIL;WHITE NIB;BLACK NIB;CHECK MARK;HEAVY CHECK MARK",
    "MULTIPLICATION X;HEAVY MULTIPLICATION X;BALLOT X;HEAVY BALLOT X;OUTLINED GREEK CROSS",
    "HEAVY GREEK CROSS;OPEN CENTRE CROSS;HEAVY OPEN CENTRE CROSS;LATIN CROSS",
    "SHADOWED z LATIN CROSS;OUTLINED LATIN CROSS;MALTESE CROSS;STAR OF DAVID",
    "FOUR TEARDROP-SPOKED ASTERISK;aBALLOON-SPOKED ASTERISK;HEAVY FOUR BALLOON-SPOKED ASTERISK",
    "FOUR CLUB-SPOKED ASTERISK;BLACK FOUR POINTED STAR;WHITE FOUR POINTED STAR;SPARKLES",
    "STRESS OUTLINED z STAR;CIRCLED z STAR;OPEN CENTRE x STAR;BLACK CENTRE z STAR;OUTLINED x STAR",
    "HEAVY OUTLINED x STAR;PINWHEEL STAR;SHADOWED z STAR;HEAVY ASTERISK;OPEN CENTRE ASTERISK",
    "EIGHT SPOKED ASTERISK;aPOINTED x STAR;bPINWHEEL STAR;SIX POINTED x STAR",
    "EIGHT POINTED RECTILINEAR x STAR;HEAVY EIGHT POINTED RECTILINEAR x STAR;TWELVE POINTED x STAR",
    "SIXTEEN POINTED ASTERISK;TEARDROP-SPOKED ASTERISK;OPEN CENTRE TEARDROP-SPOKED ASTERISK",
    "HEAVY TEARDROP-SPOKED ASTERISK;SIX PETALLED x p z FLORETTE;BLACK FLORETTE;WHITE FLORETTE",
    "EIGHT PETALLED OUTLINED x FLORETTE;CIRCLED OPEN CENTRE EIGHT POINTED STAR",
    "HEAVY TEARDROP-SPOKED PINWHEEL ASTERISK;SNOWFLAKE;TIGHT TRIFOLIATE SNOWFLAKE",
    "HEAVY CHEVRON SNOWFLAKE;SPARKLE;HEAVY SPARKLE;BALLOON-SPOKED ASTERISK",
    "EIGHT TEARDROP-SPOKED PROPELLER ASTERISK;HEAVY EIGHT TEARDROP-SPOKED PROPELLER ASTERISK",
    "CROSS MARK;SHADOWED z CIRCLE;NEGATIVE SQUARED CROSS MARK;LOWER h DROP-SHADOWED z SQUARE",
    "UPPER h DROP-SHADOWED z SQUARE;LOWER h SHADOWED z SQUARE;UPPER h SHADOWED z SQUARE",
    "BLACK QUESTION MARK ORNAMENT;WHITE QUESTION MARK ORNAMENT;aEXCLAMATION MARK ORNAMENT",
    "BLACK DIAMOND MINUS z X;HEAVY EXCLAMATION MARK w;LIGHT q BAR;MEDIUM q BAR;HEAVY q BAR",
    "aSINGLE TURNED COMMA QUOTATION MARK ORNAMENT;bCOMMA QUOTATION MARK ORNAMENT",
    "al TURNED COMMA QUOTATION MARK ORNAMENT;bCOMMA QUOTATION MARK ORNAMENT",
    "aLOW SINGLE COMMA QUOTATION MARK ORNAMENT;bl COMMA QUOTATION MARK ORNAMENT",
    "CURVED STEM PARAGRAPH g ORNAMENT;HEAVY EXCLAMATION MARK ORNAMENT",
    "aHEART EXCLAMATION MARK ORNAMENT;ax HEART;ROTATED HEAVY x HEART BULLET;FLORAL HEART",
    "ROTATED FLORAL HEART BULLET;MEDIUM o PARENTHESIS ORNAMENT;ah PARENTHESIS ORNAMENT",
    "aFLATTENED o PARENTHESIS ORNAMENT;bh PARENTHESIS ORNAMENT",
    "aLEFT-POINTING ANGLE BRACKET ORNAMENT;aRIGHT-POINTING ANGLE BRACKET ORNAMENT",
    "HEAVY LEFT-POINTING ANGLE QUOTATION MARK ORNAMENT",
    "aRIGHT-POINTING ANGLE QUOTATION MARK ORNAMENT;aLEFT-POINTING ANGLE BRACKET ORNAMENT",
    "aRIGHT-POINTING ANGLE BRACKET ORNAMENT;LIGHT o TORTOISE SHELL BRACKET ORNAMENT",
    "ah TORTOISE SHELL BRACKET ORNAMENT;MEDIUM o CURLY BRACKET ORNAMENT;ah CURLY BRACKET ORNAMENT",
    "DINGBAT NEGATIVE CIRCLED DIGIT ONE;dTWO;dt;dFOUR;dFIVE;dSIX;dSEVEN;dEIGHT;dNINE;cNUMBER TEN",
    "aCIRCLED SANS-SERIF DIGIT ONE;dTWO;dt;dFOUR;dFIVE;dSIX;dSEVEN;dEIGHT;dNINE;cNUMBER TEN",
    "aNEGATIVE CIRCLED SANS-SERIF DIGIT ONE;eTWO;et;eFOUR;eFIVE;eSIX;eSEVEN;eEIGHT;eNINE",
    "dNUMBER TEN;HEAVY WIDE-HEADED k f;aPLUS g;aMINUS g;aDIVISION g;aSOUTH EAST f;ak f",
    "aNORTH EAST f;DRAFTING POINT k f;HEAVY ROUND-TIPPED k f;TRIANGLE-HEADED k f;HEAVY u k f",
    "DASHED u k f;HEAVY DASHED u k f;BLACK k f;THREE-D TOP-LIGHTED k ARROWHEAD",
    "aBOTTOM-LIGHTED k ARROWHEAD;BLACK k ARROWHEAD;HEAVY x CURVED DOWNWARDS p k f;cUPWARDS p k f",
    "SQUAT x k f;HEAVY CONCAVE-POINTED x k f;RIGHT-SHADED z k f;LEFT-SHADED z k f",
    "BACK-TILTED SHADOWED z k f;FRONT-TILTED SHADOWED z k f;HEAVY LOWER RIGHT-SHADOWED z k f",
    "aUPPER RIGHT-SHADOWED z k f;NOTCHED LOWER RIGHT-SHADOWED z k f;CURLY LOOP",
    "NOTCHED UPPER RIGHT-SHADOWED z k f;CIRCLED HEAVY z k f;WHITE-FEATHERED k f",
    "BLACK-FEATHERED SOUTH EAST f;ak f;aNORTH EAST f;HEAVY BLACK-FEATHERED SOUTH EAST f;bk f",
    "bNORTH EAST f;TEARDROP-BARBED k f;HEAVY TEARDROP-SHANKED k f;WEDGE-TAILED k f",
    "HEAVY WEDGE-TAILED k f;OPEN-OUTLINED k f;DOUBLE CURLY LOOP;THREE DIMENSIONAL ANGLE",
    "WHITE TRIANGLE CONTAINING d z TRIANGLE;PERPENDICULAR;OPEN SUBSET;aSUPERSET",
    "LEFT S-SHAPED BAG DELIMITER;RIGHT S-SHAPED BAG DELIMITER;OR b DOT INSIDE",
    "REVERSE SOLIDUS PRECEDING SUBSET;SUPERSET PRECEDING SOLIDUS;VERTICAL BAR b y v",
    "MATHEMATICAL RISING DIAGONAL;LONG DIVISION;MATHEMATICAL FALLING DIAGONAL;SQUARED LOGICAL p",
    "bOR;WHITE DIAMOND b CENTRED DOT;AND b DOT;ELEMENT OF OPENING UPWARDS;LOWER h CORNER b DOT",
    "UPPER o CORNER b DOT;LEFT OUTER JOIN;RIGHT OUTER JOIN;FULL OUTER JOIN;LARGE UP TACK",
    "aDOWN TACK;LEFT p h l TURNSTILE;cTACK;aMULTIMAP;LONG h TACK;ao TACK;UP TACK b CIRCLE i",
    "LOZENGE DIVIDED BY y RULE;WHITE CONCAVE-SIDED DIAMOND;cb r TICK;dk TICK;aSQUARE b r TICK",
    "ck TICK;MATHEMATICAL o z SQUARE BRACKET;ah z SQUARE BRACKET;ao ANGLE BRACKET;ah ANGLE BRACKET",
    "ao l ANGLE BRACKET;ah l ANGLE BRACKET;ao z TORTOISE SHELL BRACKET;ah z TORTOISE SHELL BRACKET",
    "ao FLATTENED PARENTHESIS;ah FLATTENED PARENTHESIS;UPWARDS QUADRUPLE f;DOWNWARDS QUADRUPLE f",
    "ANTICLOCKWISE GAPPED CIRCLE f;CLOCKWISE GAPPED CIRCLE f;RIGHT f b CIRCLED PLUS;LONG r f;ak f",
    "ao h f;ar l f;ak l f;ao h l f;ar f FROM BAR;ak f FROM BAR;ar l f FROM BAR;ak l f FROM BAR",
    "bSQUIGGLE f;BRAILLE PATTERN BLANK;bDOTS-1;bDOTS-2;bDOTS-12;bDOTS-3;bDOTS-13;bDOTS-23",
    "bDOTS-123;bDOTS-4;bDOTS-14;bDOTS-24;bDOTS-124;bDOTS-34;bDOTS-134;bDOTS-234;bDOTS-1234;bDOTS-5",
    "bDOTS-15;bDOTS-25;bDOTS-125;bDOTS-35;bDOTS-135;bDOTS-235;bDOTS-1235;bDOTS-45;bDOTS-145",
    "bDOTS-245;bDOTS-1245;bDOTS-345;bDOTS-1345;bDOTS-2345;bDOTS-12345;bDOTS-6;bDOTS-16;bDOTS-26",
    "bDOTS-126;bDOTS-36;bDOTS-136;bDOTS-236;bDOTS-1236;bDOTS-46;bDOTS-146;bDOTS-246;bDOTS-1246",
    "bDOTS-346;bDOTS-1346;bDOTS-2346;bDOTS-12346;bDOTS-56;bDOTS-156;bDOTS-256;bDOTS-1256;bDOTS-356",
    "bDOTS-1356;bDOTS-2356;bDOTS-12356;bDOTS-456;bDOTS-1456;bDOTS-2456;bDOTS-12456;bDOTS-3456",
    "bDOTS-13456;bDOTS-23456;bDOTS-123456;bDOTS-7;bDOTS-17;bDOTS-27;bDOTS-127;bDOTS-37;bDOTS-137",
    "bDOTS-237;bDOTS-1237;bDOTS-47;bDOTS-147;bDOTS-247;bDOTS-1247;bDOTS-347;bDOTS-1347;bDOTS-2347",
    "bDOTS-12347;bDOTS-57;bDOTS-157;bDOTS-257;bDOTS-1257;bDOTS-357;bDOTS-1357;bDOTS-2357",
    "bDOTS-12357;bDOTS-457;bDOTS-1457;bDOTS-2457;bDOTS-12457;bDOTS-3457;bDOTS-13457;bDOTS-23457",
    "bDOTS-123457;bDOTS-67;bDOTS-167;bDOTS-267;bDOTS-1267;bDOTS-367;bDOTS-1367;bDOTS-2367",
    "bDOTS-12367;bDOTS-467;bDOTS-1467;bDOTS-2467;bDOTS-12467;bDOTS-3467;bDOTS-13467;bDOTS-23467",
    "bDOTS-123467;bDOTS-567;bDOTS-1567;bDOTS-2567;bDOTS-12567;bDOTS-3567;bDOTS-13567;bDOTS-23567",
    "bDOTS-123567;bDOTS-4567;bDOTS-14567;bDOTS-24567;bDOTS-124567;bDOTS-34567;bDOTS-134567",
    "bDOTS-234567;bDOTS-1234567;bDOTS-8;bDOTS-18;bDOTS-28;bDOTS-128;bDOTS-38;bDOTS-138;bDOTS-238",
    "bDOTS-1238;bDOTS-48;bDOTS-148;bDOTS-248;bDOTS-1248;bDOTS-348;bDOTS-1348;bDOTS-2348",
    "bDOTS-12348;bDOTS-58;bDOTS-158;bDOTS-258;bDOTS-1258;bDOTS-358;bDOTS-1358;bDOTS-2358",
    "bDOTS-12358;bDOTS-458;bDOTS-1458;bDOTS-2458;bDOTS-12458;bDOTS-3458;bDOTS-13458;bDOTS-23458",
    "bDOTS-123458;bDOTS-68;bDOTS-168;bDOTS-268;bDOTS-1268;bDOTS-368;bDOTS-1368;bDOTS-2368",
    "bDOTS-12368;bDOTS-468;bDOTS-1468;bDOTS-2468;bDOTS-12468;bDOTS-3468;bDOTS-13468;bDOTS-23468",
    "bDOTS-123468;bDOTS-568;bDOTS-1568;bDOTS-2568;bDOTS-12568;bDOTS-3568;bDOTS-13568;bDOTS-23568",
    "bDOTS-123568;bDOTS-4568;bDOTS-14568;bDOTS-24568;bDOTS-124568;bDOTS-34568;bDOTS-134568",
    "bDOTS-234568;bDOTS-1234568;bDOTS-78;bDOTS-178;bDOTS-278;bDOTS-1278;bDOTS-378;bDOTS-1378",
    "bDOTS-2378;bDOTS-12378;bDOTS-478;bDOTS-1478;bDOTS-2478;bDOTS-12478;bDOTS-3478;bDOTS-13478",
    "bDOTS-23478;bDOTS-123478;bDOTS-578;bDOTS-1578;bDOTS-2578;bDOTS-12578;bDOTS-3578;bDOTS-13578",
    "bDOTS-23578;bDOTS-123578;bDOTS-4578;bDOTS-14578;bDOTS-24578;bDOTS-124578;bDOTS-34578",
    "bDOTS-134578;bDOTS-234578;bDOTS-1234578;bDOTS-678;bDOTS-1678;bDOTS-2678;bDOTS-12678",
    "bDOTS-3678;bDOTS-13678;bDOTS-23678;bDOTS-123678;bDOTS-4678;bDOTS-14678;bDOTS-24678",
    "bDOTS-124678;bDOTS-34678;bDOTS-134678;bDOTS-234678;bDOTS-1234678;bDOTS-5678;bDOTS-15678",
    "bDOTS-25678;bDOTS-125678;bDOTS-35678;bDOTS-135678;bDOTS-235678;bDOTS-1235678;bDOTS-45678",
    "bDOTS-145678;bDOTS-245678;bDOTS-1245678;bDOTS-345678;bDOTS-1345678;bDOTS-2345678",
    "bDOTS-12345678;RIGHTWARDS TWO-HEADED f b q v;dl q v;LEFTWARDS l f b q v;RIGHTWARDS l f b q v",
    "LEFT h l f b q v;RIGHTWARDS TWO-HEADED f FROM BAR;LEFTWARDS l f FROM BAR",
    "RIGHTWARDS l f FROM BAR;DOWNWARDS f b y v;UPWARDS f b y v;aTRIPLE f;DOWNWARDS TRIPLE f",
    "LEFTWARDS l DASH f;RIGHTWARDS l DASH f;LEFTWARDS TRIPLE DASH f;RIGHTWARDS TRIPLE DASH f",
    "aTWO-HEADED TRIPLE DASH f;af b DOTTED STEM;UPWARDS f TO BAR;DOWNWARDS f TO BAR",
    "RIGHTWARDS f b TAIL b q v;el q v;aTWO-HEADED f b TAIL;eb q v;fl q v;LEFTWARDS ARROW-TAIL",
    "RIGHTWARDS ARROW-TAIL;LEFTWARDS l ARROW-TAIL;RIGHTWARDS l ARROW-TAIL;LEFTWARDS f TO x DIAMOND",
    "RIGHTWARDS f TO x DIAMOND;LEFTWARDS f FROM BAR TO x DIAMOND",
    "RIGHTWARDS f FROM BAR TO x DIAMOND;NORTH WEST p SOUTH EAST f;aEAST p SOUTH WEST f",
    "aWEST f b HOOK;aEAST f b HOOK;SOUTH EAST f b HOOK;aWEST f b HOOK;NORTH WEST f p NORTH EAST f",
    "aEAST f p SOUTH EAST f;SOUTH EAST f p SOUTH WEST f;aWEST f p NORTH WEST f",
    "RISING DIAGONAL CROSSING FALLING DIAGONAL;FALLING DIAGONAL CROSSING RISING DIAGONAL",
    "SOUTH EAST f CROSSING NORTH EAST f;NORTH EAST f CROSSING SOUTH EAST f",
    "FALLING DIAGONAL CROSSING NORTH EAST f;RISING DIAGONAL CROSSING SOUTH EAST f",
    "NORTH EAST f CROSSING NORTH WEST f;aWEST f CROSSING NORTH EAST f;WAVE f POINTING DIRECTLY h",
    "ARROW POINTING k THEN CURVING UPWARDS;eDOWNWARDS;bDOWNWARDS THEN CURVING r;ek",
    "RIGHT-SIDE ARC CLOCKWISE f;LEFT-SIDE ARC ANTICLOCKWISE f;TOP ARC ANTICLOCKWISE f",
    "BOTTOM ARC ANTICLOCKWISE f;TOP ARC CLOCKWISE f b MINUS;bANTICLOCKWISE f b PLUS",
    "LOWER h SEMICIRCULAR CLOCKWISE f;ao SEMICIRCULAR ANTICLOCKWISE f",
    "ANTICLOCKWISE CLOSED CIRCLE f;CLOCKWISE CLOSED CIRCLE f;RIGHTWARDS f i SHORT r f",
    "LEFTWARDS f i SHORT k f;SHORT k f i r f;RIGHTWARDS f b PLUS m;LEFTWARDS f b PLUS m",
    "RIGHTWARDS f THROUGH X;LEFT h f THROUGH d CIRCLE;UPWARDS TWO-HEADED f FROM d CIRCLE",
    "LEFT BARB UP h BARB DOWN HARPOON;bDOWN h BARB UP HARPOON;UP BARB h DOWN BARB o HARPOON",
    "bo DOWN BARB h HARPOON;LEFT BARB UP h BARB UP HARPOON;UP BARB h DOWN BARB h HARPOON",
    "LEFT BARB DOWN h BARB DOWN HARPOON;UP BARB o DOWN BARB o HARPOON",
    "LEFTWARDS HARPOON b BARB UP TO BAR;RIGHTWARDS HARPOON b BARB UP TO BAR",
    "UPWARDS HARPOON b BARB h TO BAR;DOWNWARDS HARPOON b BARB h TO BAR",
    "LEFTWARDS HARPOON b BARB DOWN TO BAR;RIGHTWARDS HARPOON b BARB DOWN TO BAR",
    "UPWARDS HARPOON b BARB o TO BAR;DOWNWARDS HARPOON b BARB o TO BAR",
    "LEFTWARDS HARPOON b BARB UP FROM BAR;RIGHTWARDS HARPOON b BARB UP FROM BAR",
    "UPWARDS HARPOON b BARB h FROM BAR;DOWNWARDS HARPOON b BARB h FROM BAR",
    "LEFTWARDS HARPOON b BARB DOWN FROM BAR;RIGHTWARDS HARPOON b BARB DOWN FROM BAR",
    "UPWARDS HARPOON b BARB o FROM BAR;DOWNWARDS HARPOON b BARB o FROM BAR",
    "LEFTWARDS HARPOON b BARB UP i r HARPOON b BARB DOWN",
    "UPWARDS HARPOON b BARB o BESIDE UPWARDS HARPOON b BARB h",
    "RIGHTWARDS HARPOON b BARB UP i k HARPOON b BARB DOWN",
    "DOWNWARDS HARPOON b BARB o BESIDE DOWNWARDS HARPOON b BARB h",
    "LEFTWARDS HARPOON b BARB UP i k HARPOON b BARB UP;dDOWN i k HARPOON b BARB DOWN",
    "RIGHTWARDS HARPOON b BARB UP i r HARPOON b BARB UP;dDOWN i r HARPOON b BARB DOWN",
    "LEFTWARDS HARPOON b BARB UP i LONG DASH;dDOWN m LONG DASH",
    "RIGHTWARDS HARPOON b BARB UP i LONG DASH;dDOWN m LONG DASH",
    "UPWARDS HARPOON b BARB o BESIDE DOWNWARDS HARPOON b BARB h",
    "DOWNWARDS HARPOON b BARB o BESIDE UPWARDS HARPOON b BARB h;RIGHT l f b ROUNDED HEAD",
    "EQUALS g i k f;TILDE OPERATOR i k f;LEFTWARDS f i TILDE OPERATOR",
    "RIGHTWARDS f i TILDE OPERATOR;cALMOST EQUAL TO;LESS-THAN i r f;LEFTWARDS f THROUGH LESS-THAN",
    "GREATER-THAN i k f;SUBSET i k f;LEFTWARDS f THROUGH SUBSET;SUPERSET i r f;LEFT FISH TAIL",
    "RIGHT FISH TAIL;UP FISH TAIL;DOWN FISH TAIL;TRIPLE q BAR DELIMITER;Z NOTATION SPOT",
    "bTYPE COLON;LEFT z CURLY BRACKET;RIGHT z CURLY BRACKET;LEFT z PARENTHESIS;RIGHT z PARENTHESIS",
    "Z NOTATION o IMAGE BRACKET;bh IMAGE BRACKET;bo BINDING BRACKET;bh BINDING BRACKET",
    "LEFT SQUARE BRACKET b UNDERBAR;RIGHT SQUARE BRACKET b UNDERBAR",
    "LEFT SQUARE BRACKET b TICK IN TOP CORNER;RIGHT SQUARE BRACKET b TICK IN BOTTOM CORNER",
    "LEFT SQUARE BRACKET b TICK IN BOTTOM CORNER;RIGHT SQUARE BRACKET b TICK IN TOP CORNER",
    "LEFT ANGLE BRACKET b DOT;RIGHT ANGLE BRACKET b DOT;LEFT ARC LESS-THAN BRACKET",
    "RIGHT ARC GREATER-THAN BRACKET;DOUBLE o ARC GREATER-THAN BRACKET;ah ARC LESS-THAN BRACKET",
    "LEFT x TORTOISE SHELL BRACKET;RIGHT x TORTOISE SHELL BRACKET;DOTTED FENCE",
    "VERTICAL ZIGZAG LINE;MEASURED ANGLE OPENING o;RIGHT ANGLE VARIANT b SQUARE",
    "MEASURED h ANGLE b DOT;ANGLE b S INSIDE;ACUTE ANGLE;SPHERICAL ANGLE OPENING o;cUP",
    "TURNED ANGLE;REVERSED ANGLE;ANGLE b UNDERBAR;REVERSED ANGLE b UNDERBAR",
    "OBLIQUE ANGLE OPENING UP;cDOWN;MEASURED ANGLE b OPEN ARM ENDING IN f POINTING UP p h;ko",
    "iDOWN p h;ko;ih p UP;io p UP;ih p DOWN;io p DOWN;REVERSED EMPTY SET;EMPTY SET b OVERBAR",
    "cd CIRCLE i;ch f i;co f i;CIRCLE b y BAR;CIRCLED q BAR;aPARALLEL;aREVERSE SOLIDUS",
    "aPERPENDICULAR;CIRCLE DIVIDED BY y BAR p TOP HALF DIVIDED BY q BAR;ab SUPERIMPOSED X",
    "CIRCLED ANTICLOCKWISE-ROTATED DIVISION g;UP f THROUGH CIRCLE;CIRCLED z BULLET;aBULLET",
    "aLESS-THAN;aGREATER-THAN;CIRCLE b d CIRCLE TO THE h;bTWO y STROKES TO THE h",
    "SQUARED RISING DIAGONAL SLASH;aFALLING DIAGONAL SLASH;aASTERISK;ad CIRCLE;aSQUARE",
    "TWO JOINED SQUARES;TRIANGLE b DOT i;bUNDERBAR;S IN TRIANGLE;TRIANGLE b SERIFS AT BOTTOM",
    "RIGHT TRIANGLE i o TRIANGLE;LEFT TRIANGLE BESIDE q BAR;VERTICAL BAR BESIDE h TRIANGLE",
    "BOWTIE b o HALF x;bh HALF x;BLACK BOWTIE;TIMES b o HALF x;bh HALF x;WHITE HOURGLASS",
    "BLACK HOURGLASS;LEFT WIGGLY FENCE;RIGHT WIGGLY FENCE;LEFT l WIGGLY FENCE;RIGHT l WIGGLY FENCE",
    "INCOMPLETE INFINITY;TIE OVER INFINITY;INFINITY NEGATED b q BAR;DOUBLE-ENDED MULTIMAP",
    "SQUARE b CONTOURED OUTLINE;INCREASES AS;SHUFFLE PRODUCT;EQUALS g p SLANTED PARALLEL",
    "eb TILDE i;IDENTICAL TO p SLANTED PARALLEL;GLEICH STARK;THERMODYNAMIC",
    "DOWN-POINTING TRIANGLE b o HALF x;ch HALF x;BLACK DIAMOND b DOWN f;aLOZENGE",
    "WHITE CIRCLE b DOWN f;BLACK CIRCLE b DOWN f;ERROR-BARRED z SQUARE;ax SQUARE;az DIAMOND",
    "ax DIAMOND;az CIRCLE;ax CIRCLE;RULE-DELAYED;REVERSE SOLIDUS OPERATOR;SOLIDUS b OVERBAR",
    "REVERSE SOLIDUS b y v;BIG SOLIDUS;aREVERSE SOLIDUS;DOUBLE PLUS;TRIPLE PLUS",
    "LEFT-POINTING CURVED ANGLE BRACKET;RIGHT-POINTING CURVED ANGLE BRACKET;TINY;MINY",
    "N-ARY CIRCLED DOT OPERATOR;bPLUS OPERATOR;bTIMES OPERATOR;aUNION OPERATOR b DOT;dPLUS",
    "aSQUARE INTERSECTION OPERATOR;bUNION OPERATOR;TWO LOGICAL p OPERATOR;bOR OPERATOR",
    "N-ARY TIMES OPERATOR;MODULO TWO SUM;SUMMATION b INTEGRAL;QUADRUPLE INTEGRAL OPERATOR",
    "FINITE PART INTEGRAL;INTEGRAL b l v;aAVERAGE b SLASH;CIRCULATION FUNCTION",
    "ANTICLOCKWISE INTEGRATION;LINE INTEGRATION b RECTANGULAR PATH AROUND POLE",
    "cSEMICIRCULAR PATH AROUND POLE;bNOT INCLUDING THE POLE;INTEGRAL AROUND A POINT OPERATOR",
    "QUATERNION INTEGRAL OPERATOR;INTEGRAL b r f b HOOK;bTIMES g;bINTERSECTION;bUNION;bOVERBAR",
    "bUNDERBAR;JOIN;LARGE o TRIANGLE OPERATOR;Z NOTATION SCHEMA COMPOSITION;cPIPING;cPROJECTION",
    "PLUS g b d CIRCLE i;cCIRCUMFLEX ACCENT i;cTILDE i;cDOT m;cTILDE m;cSUBSCRIPT TWO;cx TRIANGLE",
    "MINUS g b COMMA i;cDOT m;cFALLING DOTS;cRISING DOTS;PLUS g IN o HALF CIRCLE;ch HALF CIRCLE",
    "VECTOR OR CROSS PRODUCT;MULTIPLICATION g b DOT i;cUNDERBAR;SEMIDIRECT PRODUCT b BOTTOM CLOSED",
    "SMASH PRODUCT;MULTIPLICATION g IN o HALF CIRCLE;ch HALF CIRCLE",
    "CIRCLED MULTIPLICATION g b CIRCUMFLEX ACCENT;MULTIPLICATION g IN l CIRCLE;CIRCLED DIVISION g",
    "PLUS g IN TRIANGLE;MINUS g IN TRIANGLE;MULTIPLICATION g IN TRIANGLE;INTERIOR PRODUCT",
    "RIGHTHAND INTERIOR PRODUCT;Z NOTATION RELATIONAL COMPOSITION;AMALGAMATION OR COPRODUCT",
    "INTERSECTION b DOT;UNION b MINUS g;bOVERBAR;INTERSECTION b OVERBAR;bLOGICAL p",
    "UNION b LOGICAL OR;ai INTERSECTION;INTERSECTION i UNION;UNION i BAR i INTERSECTION",
    "INTERSECTION i BAR i UNION;UNION BESIDE p JOINED b UNION",
    "INTERSECTION BESIDE p JOINED b INTERSECTION;CLOSED UNION b SERIFS;aINTERSECTION b SERIFS",
    "DOUBLE SQUARE INTERSECTION;bUNION;CLOSED UNION b SERIFS p SMASH PRODUCT;LOGICAL p b DOT i",
    "aOR b DOT i;DOUBLE LOGICAL p;bOR;TWO INTERSECTING LOGICAL p;cOR;SLOPING LARGE OR;bp",
    "LOGICAL OR OVERLAPPING LOGICAL p;ap b MIDDLE STEM;aOR b MIDDLE STEM;ap b y DASH;aOR b y DASH",
    "ap b l OVERBAR;cUNDERBAR;cl UNDERBAR;SMALL VEE b UNDERBAR;LOGICAL OR b l OVERBAR;dUNDERBAR",
    "Z NOTATION DOMAIN ANTIRESTRICTION;bRANGE ANTIRESTRICTION;EQUALS g b DOT m;IDENTICAL b DOT i",
    "TRIPLE y BAR b l q v;dTRIPLE q v;TILDE OPERATOR b DOT i;cRISING DOTS;SIMILAR MINUS SIMILAR",
    "CONGRUENT b DOT i;EQUALS b ASTERISK;ALMOST EQUAL TO b CIRCUMFLEX ACCENT",
    "APPROXIMATELY EQUAL OR EQUAL TO;EQUALS g i PLUS g;PLUS g i EQUALS g;EQUALS g i TILDE OPERATOR",
    "DOUBLE COLON EQUAL;TWO CONSECUTIVE EQUALS SIGNS;THREE CONSECUTIVE EQUALS SIGNS",
    "EQUALS g b TWO DOTS i p TWO DOTS m;EQUIVALENT b FOUR DOTS i;LESS-THAN b CIRCLE INSIDE",
    "GREATER-THAN b CIRCLE INSIDE;LESS-THAN b QUESTION MARK i;GREATER-THAN b QUESTION MARK i",
    "LESS-THAN OR SLANTED EQUAL TO;GREATER-THAN OR SLANTED EQUAL TO",
    "LESS-THAN OR SLANTED EQUAL TO b DOT INSIDE;GREATER-THAN OR SLANTED EQUAL TO b DOT INSIDE",
    "LESS-THAN OR SLANTED EQUAL TO b DOT i;GREATER-THAN OR SLANTED EQUAL TO b DOT i",
    "LESS-THAN OR SLANTED EQUAL TO b DOT i h;GREATER-THAN OR SLANTED EQUAL TO b DOT i o",
    "LESS-THAN OR APPROXIMATE;GREATER-THAN OR APPROXIMATE;LESS-THAN p SINGLE-LINE NOT EQUAL TO",
    "GREATER-THAN p SINGLE-LINE NOT EQUAL TO;LESS-THAN p NOT APPROXIMATE",
    "GREATER-THAN p NOT APPROXIMATE;LESS-THAN i DOUBLE-LINE EQUAL i GREATER-THAN",
    "GREATER-THAN i DOUBLE-LINE EQUAL i LESS-THAN;LESS-THAN i SIMILAR OR EQUAL",
    "GREATER-THAN i SIMILAR OR EQUAL;LESS-THAN i SIMILAR i GREATER-THAN",
    "GREATER-THAN i SIMILAR i LESS-THAN;LESS-THAN i GREATER-THAN i DOUBLE-LINE EQUAL",
    "GREATER-THAN i LESS-THAN i DOUBLE-LINE EQUAL",
    "LESS-THAN i SLANTED EQUAL i GREATER-THAN i SLANTED EQUAL",
    "GREATER-THAN i SLANTED EQUAL i LESS-THAN i SLANTED EQUAL;SLANTED EQUAL TO OR LESS-THAN",
    "dGREATER-THAN;dLESS-THAN b DOT INSIDE;dGREATER-THAN b DOT INSIDE",
    "DOUBLE-LINE EQUAL TO OR LESS-THAN;dGREATER-THAN;aSLANTED EQUAL TO OR LESS-THAN;eGREATER-THAN",
    "SIMILAR OR LESS-THAN;bGREATER-THAN;ai LESS-THAN i EQUALS g;bGREATER-THAN i EQUALS g",
    "DOUBLE NESTED LESS-THAN;bGREATER-THAN;bLESS-THAN b UNDERBAR",
    "GREATER-THAN OVERLAPPING LESS-THAN;aBESIDE LESS-THAN;LESS-THAN CLOSED BY CURVE",
    "GREATER-THAN CLOSED BY CURVE;LESS-THAN CLOSED BY CURVE i SLANTED EQUAL",
    "GREATER-THAN CLOSED BY CURVE i SLANTED EQUAL;SMALLER THAN;LARGER THAN",
    "SMALLER THAN OR EQUAL TO;LARGER THAN OR EQUAL TO;EQUALS g b BUMPY i",
    "PRECEDES i SINGLE-LINE EQUALS g;SUCCEEDS i SINGLE-LINE EQUALS g",
    "PRECEDES i SINGLE-LINE NOT EQUAL TO;SUCCEEDS i SINGLE-LINE NOT EQUAL TO;PRECEDES i EQUALS g",
    "SUCCEEDS i EQUALS g;PRECEDES i NOT EQUAL TO;SUCCEEDS i NOT EQUAL TO",
    "PRECEDES i ALMOST EQUAL TO;SUCCEEDS i ALMOST EQUAL TO;PRECEDES i NOT ALMOST EQUAL TO",
    "SUCCEEDS i NOT ALMOST EQUAL TO;DOUBLE PRECEDES;aSUCCEEDS;SUBSET b DOT;SUPERSET b DOT",
    "SUBSET b PLUS g m;SUPERSET b PLUS g m;SUBSET b MULTIPLICATION g m",
    "SUPERSET b MULTIPLICATION g m;SUBSET OF OR EQUAL TO b DOT i;SUPERSET OF OR EQUAL TO b DOT i",
    "SUBSET OF i EQUALS g;SUPERSET OF i EQUALS g;SUBSET OF i TILDE OPERATOR",
    "SUPERSET OF i TILDE OPERATOR;SUBSET OF i ALMOST EQUAL TO;SUPERSET OF i ALMOST EQUAL TO",
    "SUBSET OF i NOT EQUAL TO;SUPERSET OF i NOT EQUAL TO;SQUARE o OPEN BOX OPERATOR",
    "ah OPEN BOX OPERATOR;CLOSED SUBSET;aSUPERSET;aSUBSET OR EQUAL TO;aSUPERSET OR EQUAL TO",
    "SUBSET i SUPERSET;SUPERSET i SUBSET;SUBSET i SUBSET;SUPERSET i SUPERSET;aBESIDE SUBSET",
    "bp JOINED BY DASH b SUBSET;ELEMENT OF OPENING DOWNWARDS;PITCHFORK b TEE TOP",
    "TRANSVERSAL INTERSECTION;FORKING;NONFORKING;SHORT o TACK;aDOWN TACK;aUP TACK",
    "PERPENDICULAR b S;VERTICAL BAR TRIPLE h TURNSTILE;DOUBLE q BAR o TURNSTILE",
    "VERTICAL BAR l o TURNSTILE;DOUBLE q BAR l o TURNSTILE;LONG DASH FROM o MEMBER OF l q",
    "SHORT DOWN TACK b OVERBAR;aUP TACK b UNDERBAR;ci SHORT DOWN TACK;DOUBLE DOWN TACK;aUP TACK",
    "av NOT g;REVERSED l v NOT g;DOES NOT DIVIDE b REVERSED NEGATION SLASH",
    "VERTICAL LINE b CIRCLE i;dm;DOWN TACK b CIRCLE m;PARALLEL b y v;bTILDE OPERATOR",
    "TRIPLE q BAR BINARY RELATION;cb y v;aCOLON OPERATOR;aNESTED LESS-THAN;bGREATER-THAN",
    "DOUBLE-LINE SLANTED LESS-THAN OR EQUAL TO;bGREATER-THAN OR EQUAL TO",
    "TRIPLE SOLIDUS BINARY RELATION;LARGE TRIPLE q BAR OPERATOR;DOUBLE SOLIDUS OPERATOR",
    "WHITE q BAR;N-ARY z q BAR;NORTH EAST z f;aWEST z f;SOUTH EAST z f;aWEST z f;LEFT h z f",
    "LEFTWARDS x f;UPWARDS x f;DOWNWARDS x f;NORTH EAST x f;aWEST x f;SOUTH EAST x f;aWEST x f",
    "LEFT h x f;UP DOWN x f;RIGHTWARDS f b TIP DOWNWARDS;dUPWARDS;LEFTWARDS f b TIP DOWNWARDS",
    "dUPWARDS;SQUARE b TOP HALF x;bBOTTOM HALF x;bUPPER h DIAGONAL HALF x;bLOWER o DIAGONAL HALF x",
    "DIAMOND b o HALF x;bh HALF x;bTOP HALF x;bBOTTOM HALF x;DOTTED SQUARE;BLACK LARGE SQUARE",
    "WHITE LARGE SQUARE;BLACK VERY d SQUARE;WHITE VERY d SQUARE;BLACK PENTAGON;WHITE PENTAGON",
    "aHEXAGON;BLACK HEXAGON;HORIZONTAL x HEXAGON;BLACK LARGE CIRCLE;aMEDIUM DIAMOND",
    "WHITE MEDIUM DIAMOND;BLACK MEDIUM LOZENGE;WHITE MEDIUM LOZENGE;BLACK d DIAMOND;bLOZENGE",
    "WHITE d LOZENGE;BLACK y ELLIPSE;WHITE y ELLIPSE;BLACK q ELLIPSE;WHITE q ELLIPSE",
    "LEFT f b d CIRCLE;THREE r ARROWS;LEFT f b CIRCLED PLUS;LONG r SQUIGGLE f",
    "LEFTWARDS TWO-HEADED f b q v;dl q v;cFROM BAR;bTRIPLE DASH f;af b DOTTED STEM;cTAIL b q v",
    "el q v;aTWO-HEADED f b TAIL;eb q v;fl q v;af THROUGH X;WAVE f POINTING DIRECTLY o",
    "EQUALS g i r f;REVERSE TILDE OPERATOR i r f;LEFTWARDS f i REVERSE ALMOST EQUAL TO",
    "RIGHTWARDS f THROUGH GREATER-THAN;cSUPERSET;LEFTWARDS QUADRUPLE f;RIGHTWARDS QUADRUPLE f",
    "REVERSE TILDE OPERATOR i k f;RIGHTWARDS f i REVERSE ALMOST EQUAL TO;TILDE OPERATOR i r f",
    "LEFTWARDS f i ALMOST EQUAL TO;cREVERSE TILDE OPERATOR;RIGHTWARDS f i REVERSE TILDE OPERATOR",
    "DOWNWARDS u ZIGZAG f;SHORT SLANTED NORTH f;aBACKSLANTED SOUTH f;WHITE MEDIUM STAR",
    "BLACK d STAR;WHITE d STAR;BLACK RIGHT-POINTING PENTAGON;WHITE RIGHT-POINTING PENTAGON",
    "HEAVY LARGE CIRCLE;aOVAL b OVAL INSIDE;aCIRCLE b CIRCLE INSIDE;aCIRCLE;aCIRCLED SALTIRE",
    "SLANTED NORTH f b HOOKED HEAD;BACKSLANTED SOUTH f b HOOKED TAIL;SLANTED NORTH f b y TAIL",
    "BACKSLANTED SOUTH f b y TAIL;BENT f POINTING DOWNWARDS THEN NORTH EAST",
    "SHORT BENT f POINTING DOWNWARDS THEN NORTH EAST;LEFTWARDS u f;UPWARDS u f;RIGHTWARDS u f",
    "DOWNWARDS u f;LEFT h u f;UP DOWN u f;NORTH WEST u f;aEAST u f;SOUTH EAST u f;aWEST u f",
    "LEFTWARDS u DASHED f;UPWARDS u DASHED f;RIGHTWARDS u DASHED f;DOWNWARDS u DASHED f",
    "CLOCKWISE u OPEN CIRCLE f;ANTICLOCKWISE u OPEN CIRCLE f;LEFTWARDS u f TO BAR",
    "UPWARDS u f TO BAR;RIGHTWARDS u f TO BAR;DOWNWARDS u f TO BAR;-2;NORTH WEST u f TO BAR",
    "aEAST u f TO BAR;SOUTH EAST u f TO BAR;aWEST u f TO BAR;LEFTWARDS u f b l y v",
    "UPWARDS u f b l y v;RIGHTWARDS u f b l y v;DOWNWARDS u f b l y v;HORIZONTAL TAB KEY",
    "VERTICAL TAB KEY;LEFTWARDS u f OVER k u f;UPWARDS u f r OF DOWNWARDS u f",
    "RIGHTWARDS u f OVER r u f;DOWNWARDS u f r OF UPWARDS u f;LEFTWARDS u PAIRED ARROWS",
    "UPWARDS u PAIRED ARROWS;RIGHTWARDS u PAIRED ARROWS;DOWNWARDS u PAIRED ARROWS",
    "LEFTWARDS x CIRCLED z f;UPWARDS x CIRCLED z f;RIGHTWARDS x CIRCLED z f",
    "DOWNWARDS x CIRCLED z f;ANTICLOCKWISE u h U-SHAPED f;bBOTTOM U-SHAPED f;bo U-SHAPED f",
    "bTOP U-SHAPED f;RETURN o;ah;NEWLINE o;ah;FOUR CORNER ARROWS CIRCLING ANTICLOCKWISE",
    "RIGHTWARDS x f;-1;SYMBOL FOR TYPE A ELECTRONICS;THREE-D TOP-LIGHTED r EQUILATERAL ARROWHEAD",
    "aRIGHT-LIGHTED UPWARDS EQUILATERAL ARROWHEAD;aTOP-LIGHTED k EQUILATERAL ARROWHEAD",
    "aLEFT-LIGHTED DOWNWARDS EQUILATERAL ARROWHEAD;BLACK r EQUILATERAL ARROWHEAD",
    "aUPWARDS EQUILATERAL ARROWHEAD;ak EQUILATERAL ARROWHEAD;aDOWNWARDS EQUILATERAL ARROWHEAD",
    "DOWNWARDS u f b LONG TIP r;fk;UPWARDS u f b LONG TIP r;fk;LEFTWARDS u f b LONG TIP UPWARDS",
    "RIGHTWARDS u f b LONG TIP UPWARDS;LEFTWARDS u f b LONG TIP DOWNWARDS",
    "RIGHTWARDS u f b LONG TIP DOWNWARDS;BLACK CURVED DOWNWARDS p r f;dk f;bUPWARDS p r f;dk f",
    "br p UPWARDS f;bk p UPWARDS f;br p DOWNWARDS f;bk p DOWNWARDS f;RIBBON f DOWN o;ch;bUP o;ch",
    "bo UP;bh UP;bo DOWN;bh DOWN;UPWARDS z f FROM BAR b y BAR;UP ARROWHEAD IN A RECTANGLE BOX",
    "OVERLAPPING z SQUARES;bp x SQUARES;ax SQUARES;BALLOT BOX b LIGHT X;CIRCLED X;aBOLD X",
    "BLACK SQUARE CENTRED;aDIAMOND CENTRED;TURNED x PENTAGON;HORIZONTAL x OCTAGON;BLACK OCTAGON",
    "aMEDIUM UP-POINTING TRIANGLE CENTRED;bDOWN-POINTING TRIANGLE CENTRED",
    "bLEFT-POINTING TRIANGLE CENTRED;bRIGHT-POINTING TRIANGLE CENTRED;NEPTUNE e TWO",
    "TOP HALF x CIRCLE;BOTTOM HALF x CIRCLE;LIGHT FOUR POINTED x CUSP",
    "ROTATED LIGHT FOUR POINTED x CUSP;WHITE FOUR POINTED CUSP;ROTATED z FOUR POINTED CUSP",
    "SQUARE POSITION INDICATOR;UNCERTAINTY g;GROUP MARK;PLUTO e TWO;bt;bFOUR;bFIVE;TRANSPLUTO",
    "PROSERPINA;ASTRAEA;HYGIEA;PHOLUS;NESSUS;WHITE MOON SELENA;BLACK DIAMOND ON CROSS",
    "TRUE LIGHT MOON ARTA;CUPIDO;HADES;ZEUS;KRONOS;APOLLON;ADMETOS;VULCANUS;POSEIDON",
    "LEFT HALF x STAR;RIGHT HALF x STAR;STAR b o HALF x;bh HALF x",
    "LEFTWARDS TWO-HEADED f b TRIANGLE ARROWHEADS;UPWARDS TWO-HEADED f b TRIANGLE ARROWHEADS",
    "RIGHTWARDS TWO-HEADED f b TRIANGLE ARROWHEADS;DOWNWARDS TWO-HEADED f b TRIANGLE ARROWHEADS",
    "ERIS e ONE;bTWO;SEDNA;RUSSIAN ASTROLOGICAL w VIGINTILE;cNOVILE;cQUINTILE;cBINOVILE;cSENTAGON",
    "cTREDECILE;EQUALS g b INFINITY m;UNITED w;SEPARATED w;DOUBLED w;PASSED w;REVERSED h ANGLE",
    "HELLSCHREIBER PAUSE w;GLAGOLITIC c a AZU;cBUKY;cVEDE;cGLAGOLI;cDOBRO;cYESTU;cZHIVETE;cDZELO",
    "cZEMLJA;cIZHE;cs IZHE;cI;cDJERVI;cKAKO;cLJUDIJE;cMYSLITE;cNASHI;cONU;cPOKOJI;cRITSI;cSLOVO",
    "cTVRIDO;cUKU;cFRITU;cHERU;cOTU;cPE;cSHTA;cTSI;cCHRIVI;cSHA;cYERU;cYERI;cYATI;cSPIDERY HA;cYU",
    "cd YUS;eb TAIL;cYO;cIOTATED d YUS;cBIG YUS;cIOTATED BIG YUS;cFITA;cIZHITSA;cSHTAPIC",
    "cTROKUTASTI A;cLATINATE MYSLITE;cCAUDATE CHRIVI;ad a AZU;cBUKY;cVEDE;cGLAGOLI;cDOBRO;cYESTU",
    "cZHIVETE;cDZELO;cZEMLJA;cIZHE;cs IZHE;cI;cDJERVI;cKAKO;cLJUDIJE;cMYSLITE;cNASHI;cONU;cPOKOJI",
    "cRITSI;cSLOVO;cTVRIDO;cUKU;cFRITU;cHERU;cOTU;cPE;cSHTA;cTSI;cCHRIVI;cSHA;cYERU;cYERI;cYATI",
    "cSPIDERY HA;cYU;cd YUS;eb TAIL;cYO;cIOTATED d YUS;cBIG YUS;cIOTATED BIG YUS;cFITA;cIZHITSA",
    "cSHTAPIC;cTROKUTASTI A;cLATINATE MYSLITE;cCAUDATE CHRIVI;LATIN c a L b l BAR;ad a L b l BAR",
    "ac a L b MIDDLE TILDE;cP b v;cR b TAIL;ad a A b v;cT b DIAGONAL v;ac a H b DESCENDER",
    "ad a H b DESCENDER;ac a K b DESCENDER;ad a K b DESCENDER;ac a Z b DESCENDER",
    "ad a Z b DESCENDER;ac a ALPHA;cM b HOOK;cTURNED A;dALPHA;ad a V b h HOOK;ac a W b HOOK",
    "ad a W b HOOK;cV b CURL;ac a HALF H;ad a HALF H;cTAILLESS PHI;cE b NOTCH;cTURNED R b TAIL",
    "cO b LOW RING INSIDE;aa d c TURNED E;aSUBSCRIPT d a J;MODIFIER a c V;LATIN c a S b SWASH TAIL",
    "cZ b SWASH TAIL;COPTIC c a ALFA;ad a ALFA;ac a VIDA;ad a VIDA;ac a GAMMA;ad a GAMMA",
    "ac a DALDA;ad a DALDA;ac a EIE;ad a EIE;ac a SOU;ad a SOU;ac a ZATA;ad a ZATA;ac a HATE",
    "ad a HATE;ac a THETHE;ad a THETHE;ac a IAUDA;ad a IAUDA;ac a KAPA;ad a KAPA;ac a LAULA",
    "ad a LAULA;ac a MI;ad a MI;ac a NI;ad a NI;ac a KSI;ad a KSI;ac a O;ad a O;ac a PI;ad a PI",
    "ac a RO;ad a RO;ac a SIMA;ad a SIMA;ac a TAU;ad a TAU;ac a UA;ad a UA;ac a FI;ad a FI",
    "ac a KHI;ad a KHI;ac a PSI;ad a PSI;ac a OOU;ad a OOU;ac a DIALECT-P ALEF;ad a DIALECT-P ALEF",
    "ac a OLD COPTIC AIN;ad a OLD COPTIC AIN;ac a CRYPTOGRAMMIC EIE;ad a CRYPTOGRAMMIC EIE",
    "ac a DIALECT-P KAPA;ad a DIALECT-P KAPA;ac a DIALECT-P NI;ad a DIALECT-P NI",
    "ac a CRYPTOGRAMMIC NI;ad a CRYPTOGRAMMIC NI;ac a OLD COPTIC OOU;ad a OLD COPTIC OOU",
    "ac a SAMPI;ad a SAMPI;ac a CROSSED SHEI;ad a CROSSED SHEI;ac a OLD COPTIC SHEI",
    "ad a OLD COPTIC SHEI;ac a OLD COPTIC ESH;ad a OLD COPTIC ESH;ac a AKHMIMIC KHEI",
    "ad a AKHMIMIC KHEI;ac a DIALECT-P HORI;ad a DIALECT-P HORI;ac a OLD COPTIC HORI",
    "ad a OLD COPTIC HORI;ac a OLD COPTIC HA;ad a OLD COPTIC HA;ac a L-SHAPED HA;ad a L-SHAPED HA",
    "ac a OLD COPTIC HEI;ad a OLD COPTIC HEI;ac a OLD COPTIC HAT;ad a OLD COPTIC HAT",
    "ac a OLD COPTIC GANGIA;ad a OLD COPTIC GANGIA;ac a OLD COPTIC DJA;ad a OLD COPTIC DJA",
    "ac a OLD COPTIC SHIMA;ad a OLD COPTIC SHIMA;ac a OLD NUBIAN SHIMA;ad a OLD NUBIAN SHIMA",
    "ac a OLD NUBIAN NGI;ad a OLD NUBIAN NGI;ac a OLD NUBIAN NYI;ad a OLD NUBIAN NYI",
    "ac a OLD NUBIAN WAU;ad a OLD NUBIAN WAU;aw KAI;bMI RO;bPI RO;bSTAUROS;bTAU RO;bKHI RO",
    "bSHIMA SIMA;ac a CRYPTOGRAMMIC SHEI;ad a CRYPTOGRAMMIC SHEI;ac a CRYPTOGRAMMIC GANGIA",
    "ad a CRYPTOGRAMMIC GANGIA;aCOMBINING NI i;bSPIRITUS ASPER;cLENIS;ac a BOHAIRIC KHEI",
    "ad a BOHAIRIC KHEI;-5;aOLD NUBIAN FULL STOP;cDIRECT QUESTION MARK;cINDIRECT QUESTION MARK",
    "cVERSE DIVIDER;aFRACTION ONE HALF;aFULL STOP;aMORPHOLOGICAL DIVIDER;GEORGIAN d a AN;cBAN;cGAN",
    "cDON;cEN;cVIN;cZEN;cTAN;cIN;cKAN;cLAS;cMAN;cNAR;cON;cPAR;cZHAR;cRAE;cSAN;cTAR;cUN;cPHAR;cKHAR",
    "cGHAN;cQAR;cSHIN;cCHIN;cCAN;cJIL;cCIL;cCHAR;cXAN;cJHAN;cHAE;cHE;cHIE;cWE;cHAR;cHOE;-1;cYN;-5",
    "cAEN;-2;TIFINAGH a YA;bYAB;bYABH;bYAG;bYAGHH;bBERBER ACADEMY YAJ;bYAJ;bYAD;bYADH;bYADD;bYADDH",
    "bYEY;bYAF;bYAK;bTUAREG YAK;bYAKHH;bYAH;bBERBER ACADEMY YAH;bTUAREG YAH;bYAHH;bYAA;bYAKH",
    "bTUAREG YAKH;bYAQ;bTUAREG YAQ;bYI;bYAZH;bAHAGGAR YAZH;bTUAREG YAZH;bYAL;bYAM;bYAN",
    "bTUAREG YAGN;cYANG;bYAP;bYU;bYAR;bYARR;bYAGH;bTUAREG YAGH;bAYER YAGH;bYAS;bYASS;bYASH;bYAT",
    "bYATH;bYACH;bYATT;bYAV;bYAW;bYAY;bYAZ;bTAWELLEMET YAZ;bYAZZ;bYE;bYO;-7",
    "aMODIFIER a LABIALIZATION MARK;aSEPARATOR MARK;-14;aCONSONANT JOINER;ETHIOPIC SYLLABLE LOA",
    "bMOA;bROA;bSOA;bSHOA;bBOA;bTOA;bCOA;bNOA;bNYOA;bGLOTTAL OA;bZOA;bDOA;bDDOA;bJOA;bTHOA;bCHOA",
    "bPHOA;bPOA;bGGWA;bGGWI;bGGWEE;bGGWE;-9;bSSA;bSSU;bSSI;bSSAA;bSSEE;bSSE;bSSO;-1;bCCA;bCCU;bCCI",
    "bCCAA;bCCEE;bCCE;bCCO;-1;bZZA;bZZU;bZZI;bZZAA;bZZEE;bZZE;bZZO;-1;bCCHA;bCCHU;bCCHI;bCCHAA",
    "bCCHEE;bCCHE;bCCHO;-1;bQYA;bQYU;bQYI;bQYAA;bQYEE;bQYE;bQYO;-1;bKYA;bKYU;bKYI;bKYAA;bKYEE;bKYE",
    "bKYO;-1;bXYA;bXYU;bXYI;bXYAA;bXYEE;bXYE;bXYO;-1;bGYA;bGYU;bGYI;bGYAA;bGYEE;bGYE;bGYO;-1",
    "COMBINING CYRILLIC a BE;cVE;cGHE;cDE;cZHE;cZE;cKA;cEL;cEM;cEN;cO;cPE;cER;cES;cTE;cHA;cTSE",
    "cCHE;cSHA;cSHCHA;cFITA;cES-TE;cA;cIE;cDJERV;cMONOGRAPH UK;cYAT;cYU;cIOTIFIED A;cLITTLE YUS",
    "cBIG YUS;cIOTIFIED BIG YUS;RIGHT ANGLE SUBSTITUTION MARKER;bDOTTED SUBSTITUTION MARKER",
    "LEFT SUBSTITUTION BRACKET;RIGHT SUBSTITUTION BRACKET;LEFT DOTTED SUBSTITUTION BRACKET",
    "RIGHT DOTTED SUBSTITUTION BRACKET;RAISED INTERPOLATION MARKER;aDOTTED INTERPOLATION MARKER",
    "DOTTED TRANSPOSITION MARKER;LEFT TRANSPOSITION BRACKET;RIGHT TRANSPOSITION BRACKET",
    "RAISED SQUARE;LEFT RAISED OMISSION BRACKET;RIGHT RAISED OMISSION BRACKET;EDITORIAL CORONIS",
    "PARAGRAPHOS;FORKED PARAGRAPHOS;REVERSED FORKED PARAGRAPHOS;HYPODIASTOLE;DOTTED OBELOS",
    "DOWNWARDS ANCORA;UPWARDS ANCORA;DOTTED RIGHT-POINTING ANGLE;DOUBLE OBLIQUE HYPHEN",
    "INVERTED INTERROBANG;PALM BRANCH;HYPHEN b DIAERESIS;TILDE b RING i",
    "LEFT LOW PARAPHRASE BRACKET;RIGHT LOW PARAPHRASE BRACKET;TILDE b DOT i;cm;LEFT q BAR b QUILL",
    "RIGHT q BAR b QUILL;TOP o HALF BRACKET;ah HALF BRACKET;BOTTOM o HALF BRACKET;ah HALF BRACKET",
    "LEFT SIDEWAYS U BRACKET;RIGHT SIDEWAYS U BRACKET;LEFT l PARENTHESIS;RIGHT l PARENTHESIS",
    "TWO DOTS OVER ONE DOT PUNCTUATION;ONE DOT OVER TWO DOTS PUNCTUATION",
    "SQUARED FOUR DOT PUNCTUATION;FIVE DOT MARK;REVERSED QUESTION MARK;VERTICAL TILDE;RING POINT",
    "WORD SEPARATOR MIDDLE DOT;TURNED COMMA;RAISED DOT;aCOMMA;TURNED SEMICOLON;DAGGER b o GUARD",
    "bh GUARD;TURNED DAGGER;TOP HALF SECTION g;TWO-EM DASH;THREE-EM DASH;STENOGRAPHIC FULL STOP",
    "VERTICAL SIX DOTS;WIGGLY q LINE;CAPITULUM;DOUBLE HYPHEN;REVERSED COMMA",
    "DOUBLE LOW-REVERSED-9 QUOTATION MARK;DASH b o UPTURN;DOUBLE SUSPENSION MARK",
    "INVERTED LOW KAVYKA;cb KAVYKA i;LOW KAVYKA;bb DOT;DOUBLE STACKED COMMA;DOTTED SOLIDUS",
    "TRIPLE DAGGER;MEDIEVAL COMMA;PARAGRAPHUS MARK;PUNCTUS ELEVATUS MARK;CORNISH VERSE DIVIDER",
    "CROSS PATTY b h CROSSBAR;co CROSSBAR;TIRONIAN g c ET;MEDIEVAL EXCLAMATION MARK;aQUESTION MARK",
    "LEFT SQUARE BRACKET b v;RIGHT SQUARE BRACKET b v;LEFT SQUARE BRACKET b l v",
    "RIGHT SQUARE BRACKET b l v;TOP HALF o PARENTHESIS;bh PARENTHESIS;BOTTOM HALF o PARENTHESIS",
    "bh PARENTHESIS;OBLIQUE HYPHEN"]),
   (0x2e80, [
    "CJK RADICAL REPEAT;bCLIFF;bSECOND ONE;cTWO;ct;bPERSON;bBOX;bTABLE;bKNIFE ONE;cTWO;bDIVINATION",
    "bSEAL;bd ONE;cTWO;bLAME ONE;cTWO;ct;cFOUR;bSNAKE;bTHREAD;bSNOUT ONE;cTWO;bHEART ONE;cTWO",
    "bHAND;bRAP;-1;bCHOKE;bSUN;bMOON;bDEATH;bMOTHER;bCIVILIAN;bWATER ONE;cTWO;bFIRE;bPAW ONE;cTWO",
    "bSIMPLIFIED HALF TREE TRUNK;bCOW;bDOG;bJADE;bBOLT OF CLOTH;bEYE;bSPIRIT ONE;cTWO;bBAMBOO",
    "bSILK;bC-SIMPLIFIED SILK;bNET ONE;cTWO;ct;cFOUR;bMESH;bSHEEP;bRAM;bEWE;bOLD;bBRUSH ONE;cTWO",
    "bMEAT;bMORTAR;bGRASS ONE;cTWO;ct;bTIGER;bCLOTHES;bWEST ONE;cTWO;bC-SIMPLIFIED SEE",
    "bSIMPLIFIED HORN;bHORN;bC-SIMPLIFIED SPEECH;cSHELL;bFOOT;bC-SIMPLIFIED CART;bSIMPLIFIED WALK",
    "bWALK ONE;cTWO;bCITY;bC-SIMPLIFIED GOLD;bLONG ONE;cTWO;bC-SIMPLIFIED LONG;cGATE;bMOUND ONE",
    "cTWO;bRAIN;bBLUE;bC-SIMPLIFIED TANNED LEATHER;cLEAF;cWIND;cFLY;bEAT ONE;cTWO;ct",
    "bC-SIMPLIFIED EAT;bHEAD;bC-SIMPLIFIED HORSE;bBONE;bGHOST;bC-SIMPLIFIED FISH;cBIRD;cSALT",
    "bSIMPLIFIED WHEAT;cYELLOW;bC-SIMPLIFIED FROG;bJ-SIMPLIFIED EVEN;bC-SIMPLIFIED EVEN",
    "bJ-SIMPLIFIED TOOTH;bC-SIMPLIFIED TOOTH;bJ-SIMPLIFIED DRAGON;bC-SIMPLIFIED DRAGON;bTURTLE",
    "bJ-SIMPLIFIED TURTLE;bC-SIMPLIFIED TURTLE;-12;KANGXI RADICAL ONE;bLINE;bDOT;bSLASH;bSECOND",
    "bHOOK;bTWO;bLID;bMAN;bLEGS;bENTER;bEIGHT;bDOWN BOX;bCOVER;bICE;bTABLE;bOPEN BOX;bKNIFE;bPOWER",
    "bWRAP;bSPOON;bh OPEN BOX;bHIDING ENCLOSURE;bTEN;bDIVINATION;bSEAL;bCLIFF;bPRIVATE;bAGAIN",
    "bMOUTH;bENCLOSURE;bEARTH;bSCHOLAR;bGO;cSLOWLY;bEVENING;bBIG;bWOMAN;bCHILD;bROOF;bINCH;bd",
    "bLAME;bCORPSE;bSPROUT;bMOUNTAIN;bRIVER;bWORK;bONESELF;bTURBAN;bDRY;bSHORT THREAD",
    "bDOTTED CLIFF;bLONG STRIDE;bTWO HANDS;bSHOOT;bBOW;bSNOUT;bBRISTLE;bSTEP;bHEART;bHALBERD;bDOOR",
    "bHAND;bBRANCH;bRAP;bSCRIPT;bDIPPER;bAXE;bSQUARE;bNOT;bSUN;bSAY;bMOON;bTREE;bLACK;bSTOP;bDEATH",
    "bWEAPON;bDO NOT;bCOMPARE;bFUR;bCLAN;bSTEAM;bWATER;bFIRE;bCLAW;bFATHER;bl X;bHALF TREE TRUNK",
    "bSLICE;bFANG;bCOW;bDOG;bPROFOUND;bJADE;bMELON;bTILE;bSWEET;bLIFE;bUSE;bFIELD;bBOLT OF CLOTH",
    "bSICKNESS;bDOTTED TENT;bz;bSKIN;bDISH;bEYE;bSPEAR;bf;bSTONE;bSPIRIT;bTRACK;bGRAIN;bCAVE",
    "bSTAND;bBAMBOO;bRICE;bSILK;bJAR;bNET;bSHEEP;bFEATHER;bOLD;bp;bPLOW;bEAR;bBRUSH;bMEAT",
    "bMINISTER;bSELF;bARRIVE;bMORTAR;bTONGUE;bOPPOSE;bBOAT;bSTOPPING;bCOLOR;bGRASS;bTIGER;bINSECT",
    "bBLOOD;bWALK ENCLOSURE;bCLOTHES;bWEST;bSEE;bHORN;bSPEECH;bVALLEY;bBEAN;bPIG;bBADGER;bSHELL",
    "bRED;bRUN;bFOOT;bBODY;bCART;bBITTER;bMORNING;bWALK;bCITY;bWINE;bDISTINGUISH;bVILLAGE;bGOLD",
    "bLONG;bGATE;bMOUND;bSLAVE;bSHORT TAILED BIRD;bRAIN;bBLUE;bWRONG;bFACE;bLEATHER",
    "bTANNED LEATHER;bLEEK;bSOUND;bLEAF;bWIND;bFLY;bEAT;bHEAD;bFRAGRANT;bHORSE;bBONE;bTALL;bHAIR",
    "bFIGHT;bSACRIFICIAL WINE;bCAULDRON;bGHOST;bFISH;bBIRD;bSALT;bDEER;bWHEAT;bHEMP;bYELLOW",
    "bMILLET;bx;bEMBROIDERY;bFROG;bTRIPOD;bDRUM;bRAT;bNOSE;bEVEN;bTOOTH;bDRAGON;bTURTLE;bFLUTE"]),
   (0x2ff0, [
    "IDEOGRAPHIC DESCRIPTION CHARACTER o TO h;ci TO m;co TO MIDDLE p h;ci TO MIDDLE p m",
    "cFULL SURROUND;cSURROUND FROM i;em;eo;eUPPER o;fh;eLOWER o;cOVERLAID;-4;aSPACE;aCOMMA",
    "aFULL STOP;DITTO MARK;JAPANESE INDUSTRIAL STANDARD w;IDEOGRAPHIC ITERATION MARK;aCLOSING MARK",
    "aNUMBER ZERO;LEFT ANGLE BRACKET;RIGHT ANGLE BRACKET;LEFT l ANGLE BRACKET",
    "RIGHT l ANGLE BRACKET;LEFT CORNER BRACKET;RIGHT CORNER BRACKET;LEFT z CORNER BRACKET",
    "RIGHT z CORNER BRACKET;LEFT x LENTICULAR BRACKET;RIGHT x LENTICULAR BRACKET;POSTAL MARK",
    "GETA MARK;LEFT TORTOISE SHELL BRACKET;RIGHT TORTOISE SHELL BRACKET;LEFT z LENTICULAR BRACKET",
    "RIGHT z LENTICULAR BRACKET;LEFT z TORTOISE SHELL BRACKET;RIGHT z TORTOISE SHELL BRACKET",
    "LEFT z SQUARE BRACKET;RIGHT z SQUARE BRACKET;WAVE DASH;REVERSED l PRIME QUOTATION MARK",
    "DOUBLE PRIME QUOTATION MARK;LOW l PRIME QUOTATION MARK;POSTAL MARK FACE;HANGZHOU NUMERAL ONE",
    "bTWO;bt;bFOUR;bFIVE;bSIX;bSEVEN;bEIGHT;bNINE;IDEOGRAPHIC LEVEL TONE MARK;aRISING TONE MARK",
    "aDEPARTING TONE MARK;aENTERING TONE MARK;HANGUL SINGLE DOT TONE MARK;al DOT TONE MARK",
    "WAVY DASH;VERTICAL KANA REPEAT MARK;cb VOICED SOUND MARK;cMARK UPPER HALF",
    "cb VOICED SOUND MARK UPPER HALF;cMARK LOWER HALF;CIRCLED POSTAL MARK",
    "IDEOGRAPHIC TELEGRAPH LINE FEED SEPARATOR w;HANGZHOU NUMERAL TEN;bTWENTY;bTHIRTY",
    "VERTICAL IDEOGRAPHIC ITERATION MARK;MASU MARK;PART ALTERNATION MARK",
    "IDEOGRAPHIC VARIATION INDICATOR;aHALF FILL SPACE;-1;HIRAGANA a d A;bA;bd I;bI;bd U;bU;bd E;bE",
    "bd O;bO;bKA;bGA;bKI;bGI;bKU;bGU;bKE;bGE;bKO;bGO;bSA;bZA;bSI;bZI;bSU;bZU;bSE;bZE;bSO;bZO;bTA",
    "bDA;bTI;bDI;bd TU;bTU;bDU;bTE;bDE;bTO;bDO;bNA;bNI;bNU;bNE;bNO;bHA;bBA;bPA;bHI;bBI;bPI;bHU;bBU",
    "bPU;bHE;bBE;bPE;bHO;bBO;bPO;bMA;bMI;bMU;bME;bMO;bd YA;bYA;bd YU;bYU;bd YO;bYO;bRA;bRI;bRU;bRE",
    "bRO;bd WA;bWA;bWI;bWE;bWO;bN;bVU;bd KA;cKE;-2;COMBINING KATAKANA-HIRAGANA VOICED SOUND MARK",
    "bSEMI-VOICED SOUND MARK;KATAKANA-HIRAGANA VOICED SOUND MARK;aSEMI-VOICED SOUND MARK",
    "HIRAGANA ITERATION MARK;aVOICED ITERATION MARK;aDIGRAPH YORI;KATAKANA-HIRAGANA l HYPHEN",
    "KATAKANA a d A;bA;bd I;bI;bd U;bU;bd E;bE;bd O;bO;bKA;bGA;bKI;bGI;bKU;bGU;bKE;bGE;bKO;bGO;bSA",
    "bZA;bSI;bZI;bSU;bZU;bSE;bZE;bSO;bZO;bTA;bDA;bTI;bDI;bd TU;bTU;bDU;bTE;bDE;bTO;bDO;bNA;bNI;bNU",
    "bNE;bNO;bHA;bBA;bPA;bHI;bBI;bPI;bHU;bBU;bPU;bHE;bBE;bPE;bHO;bBO;bPO;bMA;bMI;bMU;bME;bMO;bd YA",
    "bYA;bd YU;bYU;bd YO;bYO;bRA;bRI;bRU;bRE;bRO;bd WA;bWA;bWI;bWE;bWO;bN;bVU;bd KA;cKE;bVA;bVI",
    "bVE;bVO;aMIDDLE DOT;KATAKANA-HIRAGANA PROLONGED SOUND MARK;KATAKANA ITERATION MARK",
    "aVOICED ITERATION MARK;aDIGRAPH KOTO;-5;BOPOMOFO a B;bP;bM;bF;bD;bT;bN;bL;bG;bK;bH;bJ;bQ;bX",
    "bZH;bCH;bSH;bR;bZ;bC;bS;bA;bO;bE;bEH;bAI;bEI;bAU;bOU;bAN;bEN;bANG;bENG;bER;bI;bU;bIU;bV;bNG",
    "bGN;bIH;bO b DOT i;bNN;-1;HANGUL a KIYEOK;bSSANGKIYEOK;bKIYEOK-SIOS;bNIEUN;bNIEUN-CIEUC",
    "bNIEUN-HIEUH;bTIKEUT;bSSANGTIKEUT;bRIEUL;bRIEUL-KIYEOK;bRIEUL-MIEUM;bRIEUL-PIEUP;bRIEUL-SIOS",
    "bRIEUL-THIEUTH;bRIEUL-PHIEUPH;bRIEUL-HIEUH;bMIEUM;bPIEUP;bSSANGPIEUP;bPIEUP-SIOS;bSIOS",
    "bSSANGSIOS;bIEUNG;bCIEUC;bSSANGCIEUC;bCHIEUCH;bKHIEUKH;bTHIEUTH;bPHIEUPH;bHIEUH;bA;bAE;bYA",
    "bYAE;bEO;bE;bYEO;bYE;bO;bWA;bWAE;bOE;bYO;bU;bWEO;bWE;bWI;bYU;bEU;bYI;bI;aFILLER;aa SSANGNIEUN",
    "bNIEUN-TIKEUT;bNIEUN-SIOS;bNIEUN-PANSIOS;bRIEUL-KIYEOK-SIOS;bRIEUL-TIKEUT;bRIEUL-PIEUP-SIOS",
    "bRIEUL-PANSIOS;bRIEUL-YEORINHIEUH;bMIEUM-PIEUP;bMIEUM-SIOS;bMIEUM-PANSIOS;bKAPYEOUNMIEUM",
    "bPIEUP-KIYEOK;bPIEUP-TIKEUT;bPIEUP-SIOS-KIYEOK;bPIEUP-SIOS-TIKEUT;bPIEUP-CIEUC;bPIEUP-THIEUTH",
    "bKAPYEOUNPIEUP;bKAPYEOUNSSANGPIEUP;bSIOS-KIYEOK;bSIOS-NIEUN;bSIOS-TIKEUT;bSIOS-PIEUP",
    "bSIOS-CIEUC;bPANSIOS;bSSANGIEUNG;bYESIEUNG;bYESIEUNG-SIOS;bYESIEUNG-PANSIOS;bKAPYEOUNPHIEUPH",
    "bSSANGHIEUH;bYEORINHIEUH;bYO-YA;bYO-YAE;bYO-I;bYU-YEO;bYU-YE;bYU-I;bARAEA;bARAEAE;-1",
    "IDEOGRAPHIC ANNOTATION LINKING MARK;bREVERSE MARK;bONE MARK;bTWO MARK;bt MARK;bFOUR MARK",
    "bTOP MARK;bMIDDLE MARK;bBOTTOM MARK;bFIRST MARK;bSECOND MARK;bTHIRD MARK;bFOURTH MARK",
    "bHEAVEN MARK;bEARTH MARK;bMAN MARK;BOPOMOFO a BU;bZI;bJI;bGU;bEE;bENN;bOO;bONN;bIR;bANN;bINN",
    "bUNN;bIM;bNGG;bAINN;bAUNN;bAM;bOM;bONG;bINNN;an a P;cT;cK;cH;aa GH;bLH;bZY;an a G;aa GW;bKW",
    "bOE;bAH;CJK v T;bWG;bXG;bBXG;bSW;bHZZ;bHZG;bHP;bHZWG;bSZWG;bHZT;bHZZP;bHPWG;bHZW;bHZZZ;bN;bH",
    "bS;bP;bSP;bD;bHZ;bHG;bSZ;bSWZ;bST;bSG;bPD;bPZ;bTN;bSZZ;bSWG;bHXWG;bHZZZG;bPG;bQ;-12",
    "KATAKANA a d KU;cSI;cSU;cTO;cNU;cHA;cHI;cHU;cHE;cHO;cMU;cRA;cRI;cRU;cRE;cRO",
    "PARENTHESIZED HANGUL KIYEOK;bNIEUN;bTIKEUT;bRIEUL;bMIEUM;bPIEUP;bSIOS;bIEUNG;bCIEUC;bCHIEUCH",
    "bKHIEUKH;bTHIEUTH;bPHIEUPH;bHIEUH;bKIYEOK A;bNIEUN A;bTIKEUT A;bRIEUL A;bMIEUM A;bPIEUP A",
    "bSIOS A;bIEUNG A;bCIEUC A;bCHIEUCH A;bKHIEUKH A;bTHIEUTH A;bPHIEUPH A;bHIEUH A;bCIEUC U",
    "aKOREAN CHARACTER OJEON;cO HU;-1;aIDEOGRAPH ONE;bTWO;bt;bFOUR;bFIVE;bSIX;bSEVEN;bEIGHT;bNINE",
    "bTEN;bMOON;bFIRE;bWATER;bWOOD;bMETAL;bEARTH;bSUN;bSTOCK;bHAVE;bSOCIETY;bNAME;bSPECIAL",
    "bFINANCIAL;bCONGRATULATION;bLABOR;bREPRESENT;bCALL;bSTUDY;bSUPERVISE;bENTERPRISE;bRESOURCE",
    "bALLIANCE;bFESTIVAL;bREST;bSELF;bREACH;CIRCLED IDEOGRAPH QUESTION;bKINDERGARTEN;bSCHOOL;bKOTO",
    "aNUMBER TEN ON x SQUARE;bTWENTY ON x SQUARE;bTHIRTY ON x SQUARE;bFORTY ON x SQUARE",
    "bFIFTY ON x SQUARE;bSIXTY ON x SQUARE;bSEVENTY ON x SQUARE;bEIGHTY ON x SQUARE;PARTNERSHIP g",
    "CIRCLED NUMBER TWENTY ONE;cTWO;ct;cFOUR;cFIVE;cSIX;cSEVEN;cEIGHT;cNINE;bTHIRTY;cONE;cTWO;ct",
    "cFOUR;cFIVE;aHANGUL KIYEOK;bNIEUN;bTIKEUT;bRIEUL;bMIEUM;bPIEUP;bSIOS;bIEUNG;bCIEUC;bCHIEUCH",
    "bKHIEUKH;bTHIEUTH;bPHIEUPH;bHIEUH;bKIYEOK A;bNIEUN A;bTIKEUT A;bRIEUL A;bMIEUM A;bPIEUP A",
    "bSIOS A;bIEUNG A;bCIEUC A;bCHIEUCH A;bKHIEUKH A;bTHIEUTH A;bPHIEUPH A;bHIEUH A",
    "aKOREAN CHARACTER CHAMKO;cJUEUI;aHANGUL IEUNG U;KOREAN STANDARD w;CIRCLED IDEOGRAPH ONE;bTWO",
    "bt;bFOUR;bFIVE;bSIX;bSEVEN;bEIGHT;bNINE;bTEN;bMOON;bFIRE;bWATER;bWOOD;bMETAL;bEARTH;bSUN",
    "bSTOCK;bHAVE;bSOCIETY;bNAME;bSPECIAL;bFINANCIAL;bCONGRATULATION;bLABOR;bSECRET;bMALE;bFEMALE",
    "bSUITABLE;bEXCELLENT;bPRINT;bATTENTION;bITEM;bREST;bCOPY;bCORRECT;bHIGH;bCENTRE;bLOW;bo;bh",
    "bMEDICINE;bRELIGION;bSTUDY;bSUPERVISE;bENTERPRISE;bRESOURCE;bALLIANCE;bNIGHT",
    "aNUMBER THIRTY SIX;cSEVEN;cEIGHT;cNINE;bFORTY;cONE;cTWO;ct;cFOUR;cFIVE;cSIX;cSEVEN;cEIGHT",
    "cNINE;bFIFTY;IDEOGRAPHIC TELEGRAPH w FOR JANUARY;dFEBRUARY;dMARCH;dAPRIL;dMAY;dJUNE;dJULY",
    "dAUGUST;dSEPTEMBER;dOCTOBER;dNOVEMBER;dDECEMBER;SQUARE HG;aERG;aEV;LIMITED LIABILITY g",
    "CIRCLED KATAKANA A;bI;bU;bE;bO;bKA;bKI;bKU;bKE;bKO;bSA;bSI;bSU;bSE;bSO;bTA;bTI;bTU;bTE;bTO",
    "bNA;bNI;bNU;bNE;bNO;bHA;bHI;bHU;bHE;bHO;bMA;bMI;bMU;bME;bMO;bYA;bYU;bYO;bRA;bRI;bRU;bRE;bRO",
    "bWA;bWI;bWE;bWO;SQUARE ERA NAME REIWA;aAPAATO;aARUHUA;aANPEA;aAARU;aININGU;aINTI;aUON",
    "aESUKUUDO;aEEKAA;aONSU;aOOMU;aKAIRI;aKARATTO;aKARORII;aGARON;aGANMA;aGIGA;aGINII;aKYURII",
    "aGIRUDAA;aKIRO;aKIROGURAMU;aKIROMEETORU;aKIROWATTO;aGURAMU;aGURAMUTON;aKURUZEIRO;aKUROONE",
    "aKEESU;aKORUNA;aKOOPO;aSAIKURU;aSANTIIMU;aSIRINGU;aSENTI;aSENTO;aDAASU;aDESI;aDORU;aTON;aNANO",
    "aNOTTO;aHAITU;aPAASENTO;aPAATU;aBAARERU;aPIASUTORU;aPIKURU;aPIKO;aBIRU;aHUARADDO;aHUIITO",
    "aBUSSYERU;aHURAN;aHEKUTAARU;aPESO;aPENIHI;aHERUTU;aPENSU;aPEEZI;aBEETA;aPOINTO;aBORUTO;aHON",
    "aPONDO;aHOORU;aHOON;aMAIKURO;aMAIRU;aMAHHA;aMARUKU;aMANSYON;aMIKURON;aMIRI;aMIRIBAARU;aMEGA",
    "aMEGATON;aMEETORU;aYAADO;aYAARU;aYUAN;aRITTORU;aRIRA;aRUPII;aRUUBURU;aREMU;aRENTOGEN;aWATTO",
    "IDEOGRAPHIC TELEGRAPH w FOR HOUR ZERO;eONE;eTWO;et;eFOUR;eFIVE;eSIX;eSEVEN;eEIGHT;eNINE;eTEN",
    "eELEVEN;eTWELVE;eTHIRTEEN;eFOURTEEN;eFIFTEEN;eSIXTEEN;eSEVENTEEN;eEIGHTEEN;eNINETEEN;eTWENTY",
    "eTWENTY-ONE;eTWENTY-TWO;eTWENTY-THREE;eTWENTY-FOUR;SQUARE HPA;aDA;aAU;aBAR;aOV;aPC;aDM",
    "bSQUARED;bCUBED;aIU;aERA NAME HEISEI;cSYOUWA;cTAISYOU;cMEIZI;aCORPORATION;aPA AMPS;aNA;aMU A",
    "aMA;aKA;aKB;aMB;aGB;aCAL;aKCAL;aPF;aNF;aMU F;bG;aMG;aKG;aHZ;aKHZ;aMHZ;aGHZ;aTHZ;aMU L;aML;aDL",
    "aKL;aFM;aNM;aMU M;aMM;aCM;aKM;aMM SQUARED;aCM SQUARED;aM SQUARED;aKM SQUARED;aMM CUBED",
    "aCM CUBED;aM CUBED;aKM CUBED;aM OVER S;dSQUARED;aPA;aKPA;aMPA;aGPA;aRAD;bOVER S;dSQUARED;aPS",
    "aNS;aMU S;aMS;aPV;aNV;aMU V;aMV;aKV;aMV MEGA;aPW;aNW;aMU W;aMW;aKW;aMW MEGA;aK OHM;aM OHM;aAM",
    "aBQ;aCC;aCD;aC OVER KG;aCO;aDB;aGY;aHA;aHP;aIN;aKK;aKM c;aKT;aLM;aLN;aLOG;aLX;aMB d;aMIL;aMOL",
    "aPH;aPM;aPPM;aPR;aSR;aSV;aWB;aV OVER M;aA OVER M;IDEOGRAPHIC TELEGRAPH w FOR DAY ONE;eTWO;et",
    "eFOUR;eFIVE;eSIX;eSEVEN;eEIGHT;eNINE;eTEN;eELEVEN;eTWELVE;eTHIRTEEN;eFOURTEEN;eFIFTEEN",
    "eSIXTEEN;eSEVENTEEN;eEIGHTEEN;eNINETEEN;eTWENTY;eTWENTY-ONE;eTWENTY-TWO;eTWENTY-THREE",
    "eTWENTY-FOUR;eTWENTY-FIVE;eTWENTY-SIX;eTWENTY-SEVEN;eTWENTY-EIGHT;eTWENTY-NINE;eTHIRTY",
    "eTHIRTY-ONE;SQUARE GAL"]),
   (0x4dc0, [
    "HEXAGRAM FOR THE CREATIVE HEAVEN;cRECEPTIVE EARTH;bDIFFICULTY AT THE BEGINNING",
    "bYOUTHFUL FOLLY;bWAITING;bCONFLICT;bTHE ARMY;bHOLDING TOGETHER;bd TAMING;bTREADING;bPEACE",
    "bSTANDSTILL;bFELLOWSHIP;bGREAT POSSESSION;bMODESTY;bENTHUSIASM;bFOLLOWING",
    "bWORK ON THE DECAYED;bAPPROACH;bCONTEMPLATION;bBITING THROUGH;bGRACE;bSPLITTING APART;bRETURN",
    "bINNOCENCE;bGREAT TAMING;bMOUTH CORNERS;bGREAT PREPONDERANCE;bTHE ABYSMAL WATER",
    "cCLINGING FIRE;bINFLUENCE;bDURATION;bRETREAT;bGREAT POWER;bPROGRESS;bDARKENING OF THE LIGHT",
    "bTHE FAMILY;bOPPOSITION;bOBSTRUCTION;bDELIVERANCE;bDECREASE;bINCREASE;bBREAKTHROUGH",
    "bCOMING TO MEET;bGATHERING TOGETHER;bPUSHING UPWARD;bOPPRESSION;bTHE WELL;bREVOLUTION",
    "bTHE CAULDRON;cAROUSING THUNDER;cKEEPING STILL MOUNTAIN;bDEVELOPMENT;bTHE MARRYING MAIDEN",
    "bABUNDANCE;bTHE WANDERER;cGENTLE WIND;cJOYOUS LAKE;bDISPERSION;bLIMITATION;bINNER TRUTH",
    "bd PREPONDERANCE;bAFTER COMPLETION;bBEFORE COMPLETION"]),
   (0xa000, [
    "YI SYLLABLE IT;bIX;bI;bIP;bIET;bIEX;bIE;bIEP;bAT;bAX;bA;bAP;bUOX;bUO;bUOP;bOT;bOX;bO;bOP;bEX",
    "bE;bWU;bBIT;bBIX;bBI;bBIP;bBIET;bBIEX;bBIE;bBIEP;bBAT;bBAX;bBA;bBAP;bBUOX;bBUO;bBUOP;bBOT",
    "bBOX;bBO;bBOP;bBEX;bBE;bBEP;bBUT;bBUX;bBU;bBUP;bBURX;bBUR;bBYT;bBYX;bBY;bBYP;bBYRX;bBYR;bPIT",
    "bPIX;bPI;bPIP;bPIEX;bPIE;bPIEP;bPAT;bPAX;bPA;bPAP;bPUOX;bPUO;bPUOP;bPOT;bPOX;bPO;bPOP;bPUT",
    "bPUX;bPU;bPUP;bPURX;bPUR;bPYT;bPYX;bPY;bPYP;bPYRX;bPYR;bBBIT;bBBIX;bBBI;bBBIP;bBBIET;bBBIEX",
    "bBBIE;bBBIEP;bBBAT;bBBAX;bBBA;bBBAP;bBBUOX;bBBUO;bBBUOP;bBBOT;bBBOX;bBBO;bBBOP;bBBEX;bBBE",
    "bBBEP;bBBUT;bBBUX;bBBU;bBBUP;bBBURX;bBBUR;bBBYT;bBBYX;bBBY;bBBYP;bNBIT;bNBIX;bNBI;bNBIP",
    "bNBIEX;bNBIE;bNBIEP;bNBAT;bNBAX;bNBA;bNBAP;bNBOT;bNBOX;bNBO;bNBOP;bNBUT;bNBUX;bNBU;bNBUP",
    "bNBURX;bNBUR;bNBYT;bNBYX;bNBY;bNBYP;bNBYRX;bNBYR;bHMIT;bHMIX;bHMI;bHMIP;bHMIEX;bHMIE;bHMIEP",
    "bHMAT;bHMAX;bHMA;bHMAP;bHMUOX;bHMUO;bHMUOP;bHMOT;bHMOX;bHMO;bHMOP;bHMUT;bHMUX;bHMU;bHMUP",
    "bHMURX;bHMUR;bHMYX;bHMY;bHMYP;bHMYRX;bHMYR;bMIT;bMIX;bMI;bMIP;bMIEX;bMIE;bMIEP;bMAT;bMAX;bMA",
    "bMAP;bMUOT;bMUOX;bMUO;bMUOP;bMOT;bMOX;bMO;bMOP;bMEX;bME;bMUT;bMUX;bMU;bMUP;bMURX;bMUR;bMYT",
    "bMYX;bMY;bMYP;bFIT;bFIX;bFI;bFIP;bFAT;bFAX;bFA;bFAP;bFOX;bFO;bFOP;bFUT;bFUX;bFU;bFUP;bFURX",
    "bFUR;bFYT;bFYX;bFY;bFYP;bVIT;bVIX;bVI;bVIP;bVIET;bVIEX;bVIE;bVIEP;bVAT;bVAX;bVA;bVAP;bVOT",
    "bVOX;bVO;bVOP;bVEX;bVEP;bVUT;bVUX;bVU;bVUP;bVURX;bVUR;bVYT;bVYX;bVY;bVYP;bVYRX;bVYR;bDIT;bDIX",
    "bDI;bDIP;bDIEX;bDIE;bDIEP;bDAT;bDAX;bDA;bDAP;bDUOX;bDUO;bDOT;bDOX;bDO;bDOP;bDEX;bDE;bDEP;bDUT",
    "bDUX;bDU;bDUP;bDURX;bDUR;bTIT;bTIX;bTI;bTIP;bTIEX;bTIE;bTIEP;bTAT;bTAX;bTA;bTAP;bTUOT;bTUOX",
    "bTUO;bTUOP;bTOT;bTOX;bTO;bTOP;bTEX;bTE;bTEP;bTUT;bTUX;bTU;bTUP;bTURX;bTUR;bDDIT;bDDIX;bDDI",
    "bDDIP;bDDIEX;bDDIE;bDDIEP;bDDAT;bDDAX;bDDA;bDDAP;bDDUOX;bDDUO;bDDUOP;bDDOT;bDDOX;bDDO;bDDOP",
    "bDDEX;bDDE;bDDEP;bDDUT;bDDUX;bDDU;bDDUP;bDDURX;bDDUR;bNDIT;bNDIX;bNDI;bNDIP;bNDIEX;bNDIE",
    "bNDAT;bNDAX;bNDA;bNDAP;bNDOT;bNDOX;bNDO;bNDOP;bNDEX;bNDE;bNDEP;bNDUT;bNDUX;bNDU;bNDUP;bNDURX",
    "bNDUR;bHNIT;bHNIX;bHNI;bHNIP;bHNIET;bHNIEX;bHNIE;bHNIEP;bHNAT;bHNAX;bHNA;bHNAP;bHNUOX;bHNUO",
    "bHNOT;bHNOX;bHNOP;bHNEX;bHNE;bHNEP;bHNUT;bNIT;bNIX;bNI;bNIP;bNIEX;bNIE;bNIEP;bNAX;bNA;bNAP",
    "bNUOX;bNUO;bNUOP;bNOT;bNOX;bNO;bNOP;bNEX;bNE;bNEP;bNUT;bNUX;bNU;bNUP;bNURX;bNUR;bHLIT;bHLIX",
    "bHLI;bHLIP;bHLIEX;bHLIE;bHLIEP;bHLAT;bHLAX;bHLA;bHLAP;bHLUOX;bHLUO;bHLUOP;bHLOX;bHLO;bHLOP",
    "bHLEX;bHLE;bHLEP;bHLUT;bHLUX;bHLU;bHLUP;bHLURX;bHLUR;bHLYT;bHLYX;bHLY;bHLYP;bHLYRX;bHLYR;bLIT",
    "bLIX;bLI;bLIP;bLIET;bLIEX;bLIE;bLIEP;bLAT;bLAX;bLA;bLAP;bLUOT;bLUOX;bLUO;bLUOP;bLOT;bLOX;bLO",
    "bLOP;bLEX;bLE;bLEP;bLUT;bLUX;bLU;bLUP;bLURX;bLUR;bLYT;bLYX;bLY;bLYP;bLYRX;bLYR;bGIT;bGIX;bGI",
    "bGIP;bGIET;bGIEX;bGIE;bGIEP;bGAT;bGAX;bGA;bGAP;bGUOT;bGUOX;bGUO;bGUOP;bGOT;bGOX;bGO;bGOP;bGET",
    "bGEX;bGE;bGEP;bGUT;bGUX;bGU;bGUP;bGURX;bGUR;bKIT;bKIX;bKI;bKIP;bKIEX;bKIE;bKIEP;bKAT;bKAX;bKA",
    "bKAP;bKUOX;bKUO;bKUOP;bKOT;bKOX;bKO;bKOP;bKET;bKEX;bKE;bKEP;bKUT;bKUX;bKU;bKUP;bKURX;bKUR",
    "bGGIT;bGGIX;bGGI;bGGIEX;bGGIE;bGGIEP;bGGAT;bGGAX;bGGA;bGGAP;bGGUOT;bGGUOX;bGGUO;bGGUOP;bGGOT",
    "bGGOX;bGGO;bGGOP;bGGET;bGGEX;bGGE;bGGEP;bGGUT;bGGUX;bGGU;bGGUP;bGGURX;bGGUR;bMGIEX;bMGIE",
    "bMGAT;bMGAX;bMGA;bMGAP;bMGUOX;bMGUO;bMGUOP;bMGOT;bMGOX;bMGO;bMGOP;bMGEX;bMGE;bMGEP;bMGUT",
    "bMGUX;bMGU;bMGUP;bMGURX;bMGUR;bHXIT;bHXIX;bHXI;bHXIP;bHXIET;bHXIEX;bHXIE;bHXIEP;bHXAT;bHXAX",
    "bHXA;bHXAP;bHXUOT;bHXUOX;bHXUO;bHXUOP;bHXOT;bHXOX;bHXO;bHXOP;bHXEX;bHXE;bHXEP;bNGIEX;bNGIE",
    "bNGIEP;bNGAT;bNGAX;bNGA;bNGAP;bNGUOT;bNGUOX;bNGUO;bNGOT;bNGOX;bNGO;bNGOP;bNGEX;bNGE;bNGEP",
    "bHIT;bHIEX;bHIE;bHAT;bHAX;bHA;bHAP;bHUOT;bHUOX;bHUO;bHUOP;bHOT;bHOX;bHO;bHOP;bHEX;bHE;bHEP",
    "bWAT;bWAX;bWA;bWAP;bWUOX;bWUO;bWUOP;bWOX;bWO;bWOP;bWEX;bWE;bWEP;bZIT;bZIX;bZI;bZIP;bZIEX;bZIE",
    "bZIEP;bZAT;bZAX;bZA;bZAP;bZUOX;bZUO;bZUOP;bZOT;bZOX;bZO;bZOP;bZEX;bZE;bZEP;bZUT;bZUX;bZU;bZUP",
    "bZURX;bZUR;bZYT;bZYX;bZY;bZYP;bZYRX;bZYR;bCIT;bCIX;bCI;bCIP;bCIET;bCIEX;bCIE;bCIEP;bCAT;bCAX",
    "bCA;bCAP;bCUOX;bCUO;bCUOP;bCOT;bCOX;bCO;bCOP;bCEX;bCE;bCEP;bCUT;bCUX;bCU;bCUP;bCURX;bCUR;bCYT",
    "bCYX;bCY;bCYP;bCYRX;bCYR;bZZIT;bZZIX;bZZI;bZZIP;bZZIET;bZZIEX;bZZIE;bZZIEP;bZZAT;bZZAX;bZZA",
    "bZZAP;bZZOX;bZZO;bZZOP;bZZEX;bZZE;bZZEP;bZZUX;bZZU;bZZUP;bZZURX;bZZUR;bZZYT;bZZYX;bZZY;bZZYP",
    "bZZYRX;bZZYR;bNZIT;bNZIX;bNZI;bNZIP;bNZIEX;bNZIE;bNZIEP;bNZAT;bNZAX;bNZA;bNZAP;bNZUOX;bNZUO",
    "bNZOX;bNZOP;bNZEX;bNZE;bNZUX;bNZU;bNZUP;bNZURX;bNZUR;bNZYT;bNZYX;bNZY;bNZYP;bNZYRX;bNZYR;bSIT",
    "bSIX;bSI;bSIP;bSIEX;bSIE;bSIEP;bSAT;bSAX;bSA;bSAP;bSUOX;bSUO;bSUOP;bSOT;bSOX;bSO;bSOP;bSEX",
    "bSE;bSEP;bSUT;bSUX;bSU;bSUP;bSURX;bSUR;bSYT;bSYX;bSY;bSYP;bSYRX;bSYR;bSSIT;bSSIX;bSSI;bSSIP",
    "bSSIEX;bSSIE;bSSIEP;bSSAT;bSSAX;bSSA;bSSAP;bSSOT;bSSOX;bSSO;bSSOP;bSSEX;bSSE;bSSEP;bSSUT",
    "bSSUX;bSSU;bSSUP;bSSYT;bSSYX;bSSY;bSSYP;bSSYRX;bSSYR;bZHAT;bZHAX;bZHA;bZHAP;bZHUOX;bZHUO",
    "bZHUOP;bZHOT;bZHOX;bZHO;bZHOP;bZHET;bZHEX;bZHE;bZHEP;bZHUT;bZHUX;bZHU;bZHUP;bZHURX;bZHUR",
    "bZHYT;bZHYX;bZHY;bZHYP;bZHYRX;bZHYR;bCHAT;bCHAX;bCHA;bCHAP;bCHUOT;bCHUOX;bCHUO;bCHUOP;bCHOT",
    "bCHOX;bCHO;bCHOP;bCHET;bCHEX;bCHE;bCHEP;bCHUX;bCHU;bCHUP;bCHURX;bCHUR;bCHYT;bCHYX;bCHY;bCHYP",
    "bCHYRX;bCHYR;bRRAX;bRRA;bRRUOX;bRRUO;bRROT;bRROX;bRRO;bRROP;bRRET;bRREX;bRRE;bRREP;bRRUT",
    "bRRUX;bRRU;bRRUP;bRRURX;bRRUR;bRRYT;bRRYX;bRRY;bRRYP;bRRYRX;bRRYR;bNRAT;bNRAX;bNRA;bNRAP",
    "bNROX;bNRO;bNROP;bNRET;bNREX;bNRE;bNREP;bNRUT;bNRUX;bNRU;bNRUP;bNRURX;bNRUR;bNRYT;bNRYX;bNRY",
    "bNRYP;bNRYRX;bNRYR;bSHAT;bSHAX;bSHA;bSHAP;bSHUOX;bSHUO;bSHUOP;bSHOT;bSHOX;bSHO;bSHOP;bSHET",
    "bSHEX;bSHE;bSHEP;bSHUT;bSHUX;bSHU;bSHUP;bSHURX;bSHUR;bSHYT;bSHYX;bSHY;bSHYP;bSHYRX;bSHYR;bRAT",
    "bRAX;bRA;bRAP;bRUOX;bRUO;bRUOP;bROT;bROX;bRO;bROP;bREX;bRE;bREP;bRUT;bRUX;bRU;bRUP;bRURX;bRUR",
    "bRYT;bRYX;bRY;bRYP;bRYRX;bRYR;bJIT;bJIX;bJI;bJIP;bJIET;bJIEX;bJIE;bJIEP;bJUOT;bJUOX;bJUO",
    "bJUOP;bJOT;bJOX;bJO;bJOP;bJUT;bJUX;bJU;bJUP;bJURX;bJUR;bJYT;bJYX;bJY;bJYP;bJYRX;bJYR;bQIT",
    "bQIX;bQI;bQIP;bQIET;bQIEX;bQIE;bQIEP;bQUOT;bQUOX;bQUO;bQUOP;bQOT;bQOX;bQO;bQOP;bQUT;bQUX;bQU",
    "bQUP;bQURX;bQUR;bQYT;bQYX;bQY;bQYP;bQYRX;bQYR;bJJIT;bJJIX;bJJI;bJJIP;bJJIET;bJJIEX;bJJIE",
    "bJJIEP;bJJUOX;bJJUO;bJJUOP;bJJOT;bJJOX;bJJO;bJJOP;bJJUT;bJJUX;bJJU;bJJUP;bJJURX;bJJUR;bJJYT",
    "bJJYX;bJJY;bJJYP;bNJIT;bNJIX;bNJI;bNJIP;bNJIET;bNJIEX;bNJIE;bNJIEP;bNJUOX;bNJUO;bNJOT;bNJOX",
    "bNJO;bNJOP;bNJUX;bNJU;bNJUP;bNJURX;bNJUR;bNJYT;bNJYX;bNJY;bNJYP;bNJYRX;bNJYR;bNYIT;bNYIX;bNYI",
    "bNYIP;bNYIET;bNYIEX;bNYIE;bNYIEP;bNYUOX;bNYUO;bNYUOP;bNYOT;bNYOX;bNYO;bNYOP;bNYUT;bNYUX;bNYU",
    "bNYUP;bXIT;bXIX;bXI;bXIP;bXIET;bXIEX;bXIE;bXIEP;bXUOX;bXUO;bXOT;bXOX;bXO;bXOP;bXYT;bXYX;bXY",
    "bXYP;bXYRX;bXYR;bYIT;bYIX;bYI;bYIP;bYIET;bYIEX;bYIE;bYIEP;bYUOT;bYUOX;bYUO;bYUOP;bYOT;bYOX",
    "bYO;bYOP;bYUT;bYUX;bYU;bYUP;bYURX;bYUR;bYYT;bYYX;bYY;bYYP;bYYRX;bYYR;-3;aRADICAL QOT;bLI;bKIT",
    "bNYIP;bCYP;bSSI;bGGOP;bGEP;bMI;bHXIT;bLYR;bBBUT;bMOP;bYO;bPUT;bHXUO;bTAT;bGA;bZUP;bCYT;bDDUR",
    "bBUR;bGGUO;bNYOP;bTU;bOP;bJJUT;bZOT;bPYT;bHMO;bYIT;bVUR;bSHY;bVEP;bZA;bJO;bNZUP;bJJY;bGOT",
    "bJJIE;bWO;bDU;bSHUR;bLIE;bCY;bCUOP;bCIP;bHXOP;bSHAT;bZUR;bSHOP;bCHE;bZZIET;bNBIE;bKE;-9",
    "LISU a BA;bPA;bPHA;bDA;bTA;bTHA;bGA;bKA;bKHA;bJA;bCA;bCHA;bDZA;bTSA;bTSHA;bMA;bNA;bLA;bSA",
    "bZHA;bZA;bNGA;bHA;bXA;bHHA;bFA;bWA;bSHA;bYA;bGHA;bA;bAE;bE;bEU;bI;bO;bU;bUE;bUH;bOE",
    "bTONE MYA TI;cNA PO;cMYA CYA;dBO;dNA;dJEU;aPUNCTUATION COMMA;bFULL STOP;VAI SYLLABLE EE;bEEN",
    "bHEE;bWEE;bWEEN;bPEE;bBHEE;bBEE;bMBEE;bKPEE;bMGBEE;bGBEE;bFEE;bVEE;bTEE;bTHEE;bDHEE;bDHHEE",
    "bLEE;bREE;bDEE;bNDEE;bSEE;bSHEE;bZEE;bZHEE;bCEE;bJEE;bNJEE;bYEE;bKEE;bNGGEE;bGEE;bMEE;bNEE",
    "bNYEE;bI;bIN;bHI;bHIN;bWI;bWIN;bPI;bBHI;bBI;bMBI;bKPI;bMGBI;bGBI;bFI;bVI;bTI;bTHI;bDHI;bDHHI",
    "bLI;bRI;bDI;bNDI;bSI;bSHI;bZI;bZHI;bCI;bJI;bNJI;bYI;bKI;bNGGI;bGI;bMI;bNI;bNYI;bA;bAN;bNGAN",
    "bHA;bHAN;bWA;bWAN;bPA;bBHA;bBA;bMBA;bKPA;bKPAN;bMGBA;bGBA;bFA;bVA;bTA;bTHA;bDHA;bDHHA;bLA;bRA",
    "bDA;bNDA;bSA;bSHA;bZA;bZHA;bCA;bJA;bNJA;bYA;bKA;bKAN;bNGGA;bGA;bMA;bNA;bNYA;bOO;bOON;bHOO",
    "bWOO;bWOON;bPOO;bBHOO;bBOO;bMBOO;bKPOO;bMGBOO;bGBOO;bFOO;bVOO;bTOO;bTHOO;bDHOO;bDHHOO;bLOO",
    "bROO;bDOO;bNDOO;bSOO;bSHOO;bZOO;bZHOO;bCOO;bJOO;bNJOO;bYOO;bKOO;bNGGOO;bGOO;bMOO;bNOO;bNYOO",
    "bU;bUN;bHU;bHUN;bWU;bWUN;bPU;bBHU;bBU;bMBU;bKPU;bMGBU;bGBU;bFU;bVU;bTU;bTHU;bDHU;bDHHU;bLU",
    "bRU;bDU;bNDU;bSU;bSHU;bZU;bZHU;bCU;bJU;bNJU;bYU;bKU;bNGGU;bGU;bMU;bNU;bNYU;bO;bON;bNGON;bHO",
    "bHON;bWO;bWON;bPO;bBHO;bBO;bMBO;bKPO;bMGBO;bGBO;bGBON;bFO;bVO;bTO;bTHO;bDHO;bDHHO;bLO;bRO;bDO",
    "bNDO;bSO;bSHO;bZO;bZHO;bCO;bJO;bNJO;bYO;bKO;bNGGO;bGO;bMO;bNO;bNYO;bE;bEN;bNGEN;bHE;bHEN;bWE",
    "bWEN;bPE;bBHE;bBE;bMBE;bKPE;bKPEN;bMGBE;bGBE;bGBEN;bFE;bVE;bTE;bTHE;bDHE;bDHHE;bLE;bRE;bDE",
    "bNDE;bSE;bSHE;bZE;bZHE;bCE;bJE;bNJE;bYE;bKE;bNGGE;bNGGEN;bGE;bGEN;bME;bNE;bNYE;bNG",
    "bLENGTHENER;aCOMMA;aFULL STOP;aQUESTION MARK;aSYLLABLE NDOLE FA;cKA;cSOO;aw FEENG;bKEENG",
    "bTING;bNII;bBANG;bFAA;bTAA;bDANG;bDOONG;bKUNG;bTONG;bDO-O;bJONG;aDIGIT ZERO;bONE;bTWO;bt",
    "bFOUR;bFIVE;bSIX;bSEVEN;bEIGHT;bNINE;aSYLLABLE NDOLE MA;cDO"]),
   (0xa640, [
    "CYRILLIC c a ZEMLYA;ad a ZEMLYA;ac a DZELO;ad a DZELO;ac a REVERSED DZE;ad a REVERSED DZE",
    "ac a IOTA;ad a IOTA;ac a DJERV;ad a DJERV;ac a MONOGRAPH UK;ad a MONOGRAPH UK",
    "ac a BROAD OMEGA;ad a BROAD OMEGA;ac a NEUTRAL YER;ad a NEUTRAL YER;ac a YERU b BACK YER",
    "ad a YERU b BACK YER;ac a IOTIFIED YAT;ad a IOTIFIED YAT;ac a REVERSED YU;ad a REVERSED YU",
    "ac a IOTIFIED A;ad a IOTIFIED A;ac a CLOSED LITTLE YUS;ad a CLOSED LITTLE YUS",
    "ac a BLENDED YUS;ad a BLENDED YUS;ac a IOTIFIED CLOSED LITTLE YUS",
    "ad a IOTIFIED CLOSED LITTLE YUS;ac a YN;ad a YN;ac a REVERSED TSE;ad a REVERSED TSE",
    "ac a SOFT DE;ad a SOFT DE;ac a SOFT EL;ad a SOFT EL;ac a SOFT EM;ad a SOFT EM",
    "ac a MONOCULAR O;ad a MONOCULAR O;ac a BINOCULAR O;ad a BINOCULAR O;ac a l MONOCULAR O",
    "ad a l MONOCULAR O;aa MULTIOCULAR O;COMBINING CYRILLIC VZMET;bTEN MILLIONS g",
    "bHUNDRED MILLIONS g;bTHOUSAND MILLIONS g;SLAVONIC ASTERISK;COMBINING CYRILLIC a UKRAINIAN IE",
    "cI;cYI;cU;cHARD g;cYERU;cSOFT g;cOMEGA;bKAVYKA;bPAYEROK;CYRILLIC KAVYKA;aPAYEROK;ac a DWE",
    "ad a DWE;ac a DZWE;ad a DZWE;ac a ZHWE;ad a ZHWE;ac a CCHE;ad a CCHE;ac a DZZE;ad a DZZE",
    "ac a TE b MIDDLE HOOK;ad a TE b MIDDLE HOOK;ac a TWE;ad a TWE;ac a TSWE;ad a TSWE;ac a TSSE",
    "ad a TSSE;ac a TCHE;ad a TCHE;ac a HWE;ad a HWE;ac a SHWE;ad a SHWE;ac a l O;ad a l O",
    "ac a CROSSED O;ad a CROSSED O;MODIFIER a CYRILLIC HARD g;cSOFT g;COMBINING CYRILLIC a EF",
    "cIOTIFIED E;BAMUM a A;bKA;bU;bKU;bEE;bREE;bTAE;bO;bNYI;bI;bLA;bPA;bRII;bRIEE;bLEEEE;bMEEEE",
    "bTAA;bNDAA;bNJAEM;bM;bSUU;bMU;bSHII;bSI;bSHEUX;bSEUX;bKYEE;bKET;bNUAE;bNU;bNJUAE;bYOQ;bSHU",
    "bYUQ;bYA;bNSHA;bKEUX;bPEUX;bNJEE;bNTEE;bPUE;bWUE;bPEE;bFEE;bRU;bLU;bMI;bNI;bREUX;bRAE;bKEN",
    "bNGKWAEN;bNGGA;bNGA;bSHO;bPUAE;bFU;bFOM;bWA;bNA;bLI;bPI;bLOQ;bKO;bMBEN;bREN;bMEN;bMA;bTI;bKI",
    "bMO;bMBAA;bTET;bKPA;bTEN;bNTUU;bSAMBA;bFAAMAE;bKOVUU;bKOGHOM;aCOMBINING MARK KOQNDON",
    "cTUKWENTIS;aNJAEMLI;aFULL STOP;aCOLON;aCOMMA;aSEMICOLON;aQUESTION MARK;-8",
    "MODIFIER a CHINESE TONE YIN PING;dYANG PING;dYIN SHANG;dYANG SHANG;dYIN QU;dYANG QU;dYIN RU",
    "dYANG RU;bEXTRA-HIGH DOTTED TONE BAR;bHIGH DOTTED TONE BAR;bMID DOTTED TONE BAR",
    "bLOW DOTTED TONE BAR;bEXTRA-LOW DOTTED TONE BAR;bEXTRA-HIGH DOTTED LEFT-STEM TONE BAR",
    "bHIGH DOTTED LEFT-STEM TONE BAR;bMID DOTTED LEFT-STEM TONE BAR;bLOW DOTTED LEFT-STEM TONE BAR",
    "bEXTRA-LOW DOTTED LEFT-STEM TONE BAR;bEXTRA-HIGH LEFT-STEM TONE BAR;bHIGH LEFT-STEM TONE BAR",
    "bMID LEFT-STEM TONE BAR;bLOW LEFT-STEM TONE BAR;bEXTRA-LOW LEFT-STEM TONE BAR;bDOT q BAR",
    "cSLASH;cy BAR;bLOWER h CORNER ANGLE;bRAISED UP f;cDOWN f;cEXCLAMATION MARK",
    "cINVERTED EXCLAMATION MARK;bLOW INVERTED EXCLAMATION MARK;bSTRESS p HIGH TONE;dLOW TONE",
    "LATIN c a EGYPTOLOGICAL ALEF;ad a EGYPTOLOGICAL ALEF;ac a EGYPTOLOGICAL AIN",
    "ad a EGYPTOLOGICAL AIN;ac a HENG;ad a HENG;ac a TZ;ad a TZ;ac a TRESILLO;ad a TRESILLO",
    "ac a CUATRILLO;ad a CUATRILLO;ac a CUATRILLO b COMMA;ad a CUATRILLO b COMMA;aa d c F;dS",
    "ac a AA;ad a AA;ac a AO;ad a AO;ac a AU;ad a AU;ac a AV;ad a AV;ac a AV b y BAR",
    "ad a AV b y BAR;ac a AY;ad a AY;ac a REVERSED C b DOT;ad a REVERSED C b DOT;ac a K b v",
    "ad a K b v;ac a K b DIAGONAL v;ad a K b DIAGONAL v;ac a K b v p DIAGONAL v",
    "ad a K b v p DIAGONAL v;ac a BROKEN L;ad a BROKEN L;ac a L b HIGH v;ad a L b HIGH v",
    "ac a O b LONG v OVERLAY;ad a O b LONG v OVERLAY;ac a O b LOOP;ad a O b LOOP;ac a OO;ad a OO",
    "ac a P b v THROUGH DESCENDER;ad a P b v THROUGH DESCENDER;ac a P b FLOURISH;ad a P b FLOURISH",
    "ac a P b SQUIRREL TAIL;ad a P b SQUIRREL TAIL;ac a Q b v THROUGH DESCENDER",
    "ad a Q b v THROUGH DESCENDER;ac a Q b DIAGONAL v;ad a Q b DIAGONAL v;ac a R ROTUNDA",
    "ad a R ROTUNDA;ac a RUM ROTUNDA;ad a RUM ROTUNDA;ac a V b DIAGONAL v;ad a V b DIAGONAL v",
    "ac a VY;ad a VY;ac a VISIGOTHIC Z;ad a VISIGOTHIC Z;ac a THORN b v;ad a THORN b v",
    "ac a THORN b v THROUGH DESCENDER;ad a THORN b v THROUGH DESCENDER;ac a VEND;ad a VEND;ac a ET",
    "ad a ET;ac a IS;ad a IS;ac a CON;ad a CON;MODIFIER a US;LATIN d a DUM;cLUM;cMUM;cNUM;cRUM",
    "aa d c RUM;ad a TUM;cUM;ac a INSULAR D;ad a INSULAR D;ac a INSULAR F;ad a INSULAR F",
    "ac a INSULAR G;cTURNED INSULAR G;ad a TURNED INSULAR G;ac a TURNED L;ad a TURNED L",
    "ac a INSULAR R;ad a INSULAR R;ac a INSULAR S;ad a INSULAR S;ac a INSULAR T;ad a INSULAR T",
    "MODIFIER a LOW CIRCUMFLEX ACCENT;bCOLON;bSHORT EQUALS g;LATIN c a SALTILLO;ad a SALTILLO",
    "ac a TURNED H;ad a L b RETROFLEX HOOK p BELT;aa SINOLOGICAL DOT;ac a N b DESCENDER",
    "ad a N b DESCENDER;ac a C b BAR;ad a C b BAR;ePALATAL HOOK;cH b PALATAL HOOK",
    "ac a B b FLOURISH;ad a B b FLOURISH;ac a F b v;ad a F b v;ac a VOLAPUK AE;ad a VOLAPUK AE",
    "ac a VOLAPUK OE;ad a VOLAPUK OE;ac a VOLAPUK UE;ad a VOLAPUK UE;ac a G b OBLIQUE v",
    "ad a G b OBLIQUE v;ac a K b OBLIQUE v;ad a K b OBLIQUE v;ac a N b OBLIQUE v",
    "ad a N b OBLIQUE v;ac a R b OBLIQUE v;ad a R b OBLIQUE v;ac a S b OBLIQUE v",
    "ad a S b OBLIQUE v;ac a H b HOOK;cREVERSED OPEN E;cSCRIPT G;cL b BELT;cd c I;aa d c Q",
    "ac a TURNED K;dT;cJ b CROSSED-TAIL;cCHI;cBETA;ad a BETA;ac a OMEGA;ad a OMEGA;ac a U b v",
    "ad a U b v;ac a GLOTTAL A;ad a GLOTTAL A;ac a GLOTTAL I;ad a GLOTTAL I;ac a GLOTTAL U",
    "ad a GLOTTAL U;ac a OLD POLISH O;ad a OLD POLISH O;ac a ANGLICANA W;ad a ANGLICANA W",
    "ac a C b PALATAL HOOK;cS b HOOK;cZ b PALATAL HOOK;cD b SHORT v OVERLAY",
    "ad a D b SHORT v OVERLAY;ac a S b SHORT v OVERLAY;ad a S b SHORT v OVERLAY;-5",
    "ac a CLOSED INSULAR G;ad a CLOSED INSULAR G;-1;cl THORN;-1;dWYNN;ac a MIDDLE SCOTS S",
    "ad a MIDDLE SCOTS S;ac a SIGMOID S;ad a SIGMOID S"]),
   (0xa7f2, [
    "MODIFIER a c C;cF;cQ;LATIN c a REVERSED HALF H;ad a REVERSED HALF H;aEPIGRAPHIC a SIDEWAYS I",
    "MODIFIER a c H b v;bd LIGATURE OE;LATIN a d c TURNED M;aEPIGRAPHIC a REVERSED F;dP",
    "cINVERTED M;cI LONGA;cARCHAIC M;SYLOTI NAGRI a A;cI;bg DVISVARA;ba U;cE;cO;bg HASANTA;ba KO",
    "cKHO;cGO;cGHO;bg ANUSVARA;ba CO;cCHO;cJO;cJHO;cTTO;cTTHO;cDDO;cDDHO;cTO;cTHO;cDO;cDHO;cNO;cPO",
    "cPHO;cBO;cBHO;cMO;cRO;cLO;cRRO;cSO;cHO;bVOWEL g A;dI;dU;dE;dOO;bPOETRY MARK-1;+3",
    "bg ALTERNATE HASANTA;-3;NORTH INDIC FRACTION ONE QUARTER;dHALF;ct QUARTERS;cONE SIXTEENTH",
    "dEIGHTH;ct SIXTEENTHS;bQUARTER MARK;bPLACEHOLDER MARK;bRUPEE MARK;bQUANTITY MARK;-6",
    "PHAGS-PA a KA;bKHA;bGA;bNGA;bCA;bCHA;bJA;bNYA;bTA;bTHA;bDA;bNA;bPA;bPHA;bBA;bMA;bTSA;bTSHA",
    "bDZA;bWA;bZHA;bZA;bd A;bYA;bRA;bLA;bSHA;bSA;bHA;bA;bI;bU;bE;bO;bQA;bXA;bFA;bGGA;bEE",
    "aSUBJOINED a WA;cYA;aa TTA;bTTHA;bDDA;bNNA;bALTERNATE YA;bVOICELESS SHA;bVOICED HA",
    "bASPIRATED FA;aSUBJOINED a RA;aSUPERFIXED a RA;aa CANDRABINDU;aSINGLE HEAD MARK;al HEAD MARK",
    "aMARK SHAD;bl SHAD;-8;SAURASHTRA g ANUSVARA;bVISARGA;aa A;bAA;bI;bII;bU;bUU;bVOCALIC R;cRR;cL",
    "cLL;bE;bEE;bAI;bO;bOO;bAU;bKA;bKHA;bGA;bGHA;bNGA;bCA;bCHA;bJA;bJHA;bNYA;bTTA;bTTHA;bDDA;bDDHA",
    "bNNA;bTA;bTHA;bDA;bDHA;bNA;bPA;bPHA;bBA;bBHA;bMA;bYA;bRA;bLA;bVA;bSHA;bSSA;bSA;bHA;bLLA",
    "aCONSONANT g HAARU;aVOWEL g AA;cI;cII;cU;cUU;cVOCALIC R;dRR;dL;dLL;cE;cEE;cAI;cO;cOO;cAU",
    "ag VIRAMA;bCANDRABINDU;-8;aDANDA;al DANDA;aDIGIT ZERO;bONE;bTWO;bt;bFOUR;bFIVE;bSIX;bSEVEN",
    "bEIGHT;bNINE;-6;COMBINING DEVANAGARI DIGIT ZERO;cONE;cTWO;ct;cFOUR;cFIVE;cSIX;cSEVEN;cEIGHT",
    "cNINE;ba A;cU;cKA;cNA;cPA;cRA;cVI;bg AVAGRAHA;DEVANAGARI g SPACING CANDRABINDU",
    "bCANDRABINDU VIRAMA;bl CANDRABINDU VIRAMA;bCANDRABINDU TWO;ct;cAVAGRAHA;bPUSHPIKA;aGAP FILLER",
    "aCARET;aHEADSTROKE;ag SIDDHAM;aJAIN OM;aa AY;aVOWEL g AY;KAYAH LI DIGIT ZERO;cONE;cTWO;ct",
    "cFOUR;cFIVE;cSIX;cSEVEN;cEIGHT;cNINE;ba KA;cKHA;cGA;cNGA;cSA;cSHA;cZA;cNYA;cTA;cHTA;cNA;cPA",
    "cPHA;cMA;cDA;cBA;cRA;cYA;cLA;cWA;cTHA;cHA;cVA;cCA;cA;cOE;cI;cOO;bVOWEL UE;cE;cU;cEE;cO",
    "bTONE PLOPHU;cCALYA;dPLOPHU;bg CWI;cSHYA;REJANG a KA;bGA;bNGA;bTA;bDA;bNA;bPA;bBA;bMA;bCA;bJA",
    "bNYA;bSA;bRA;bLA;bYA;bWA;bHA;bMBA;bNGGA;bNDA;bNYJA;bA;aVOWEL g I;cU;cE;cAI;cO;cAU;cEU;cEA",
    "aCONSONANT g NG;cN;cR;cH;aVIRAMA;-11;aSECTION MARK;HANGUL CHOSEONG TIKEUT-MIEUM;bTIKEUT-PIEUP",
    "bTIKEUT-SIOS;bTIKEUT-CIEUC;bRIEUL-KIYEOK;bRIEUL-SSANGKIYEOK;bRIEUL-TIKEUT;bRIEUL-SSANGTIKEUT",
    "bRIEUL-MIEUM;bRIEUL-PIEUP;bRIEUL-SSANGPIEUP;bRIEUL-KAPYEOUNPIEUP;bRIEUL-SIOS;bRIEUL-CIEUC",
    "bRIEUL-KHIEUKH;bMIEUM-KIYEOK;bMIEUM-TIKEUT;bMIEUM-SIOS;bPIEUP-SIOS-THIEUTH;bPIEUP-KHIEUKH",
    "bPIEUP-HIEUH;bSSANGSIOS-PIEUP;bIEUNG-RIEUL;bIEUNG-HIEUH;bSSANGCIEUC-HIEUH;bSSANGTHIEUTH",
    "bPHIEUPH-HIEUH;bHIEUH-SIOS;bSSANGYEORINHIEUH;-3;JAVANESE g PANYANGGA;bCECAK;bLAYAR;bWIGNYAN",
    "aa A;bI KAWI;bI;bII;bU;bPA CEREK;bNGA LELET;dRASWADI;bE;bAI;bO;bKA;cSASAK;cMURDA;bGA;cMURDA",
    "bNGA;bCA;cMURDA;bJA;bNYA MURDA;bJA MAHAPRANA;bNYA;bTTA;cMAHAPRANA;bDDA;cMAHAPRANA;bNA MURDA",
    "bTA;cMURDA;bDA;cMAHAPRANA;bNA;bPA;cMURDA;bBA;cMURDA;bMA;bYA;bRA;cAGUNG;bLA;bWA;bSA MURDA",
    "cMAHAPRANA;bSA;bHA;ag CECAK TELU;aVOWEL g TARUNG;cTOLONG;cWULU;dMELIK;cSUKU;dMENDUT;cTALING",
    "cDIRGA MURE;cPEPET;aCONSONANT g KERET;cPENGKAL;cCAKRA;aPANGKON;ao RERENGGAN;ah RERENGGAN",
    "aPADA ANDAP;bMADYA;bLUHUR;bWINDU;bPANGKAT;bLINGSA;bLUNGSI;bADEG;cADEG;bPISELEH",
    "aTURNED PADA PISELEH;-1;aPANGRANGKEP;aDIGIT ZERO;bONE;bTWO;bt;bFOUR;bFIVE;bSIX;bSEVEN;bEIGHT",
    "bNINE;-4;aPADA TIRTA TUMETES;bISEN-ISEN;MYANMAR a SHAN GHA;cCHA;cJHA;cNNA;cBHA;ag SHAN SAW",
    "aMODIFIER a SHAN REDUPLICATION;aa TAI LAING NYA;dFA;dGA;dGHA;dJA;dJHA;dDDA;dDDHA;dNNA",
    "aTAI LAING DIGIT ZERO;dONE;dTWO;dt;dFOUR;dFIVE;dSIX;dSEVEN;dEIGHT;dNINE;aa TAI LAING LLA;dDA",
    "dDHA;dBA;dBHA;-1;CHAM a A;bI;bU;bE;bAI;bO;bKA;bKHA;bGA;bGHA;bNGUE;bNGA;bCHA;bCHHA;bJA;bJHA",
    "bNHUE;bNHA;bNHJA;bTA;bTHA;bDA;bDHA;bNUE;bNA;bDDA;bPA;bPPA;bPHA;bBA;bBHA;bMUE;bMA;bBBA;bYA;bRA",
    "bLA;bVA;bSSA;bSA;bHA;aVOWEL g AA;cI;cII;cEI;cU;cOE;cO;cAI;cAU;cUE;aCONSONANT g YA;cRA;cLA;cWA",
    "-9;aa n K;cG;cNG;aCONSONANT g n NG;aa n CH;cT;cN;cP;cY;cR;cL;cSS;aCONSONANT g n M;dH;-2",
    "aDIGIT ZERO;bONE;bTWO;bt;bFOUR;bFIVE;bSIX;bSEVEN;bEIGHT;bNINE;-2;aPUNCTUATION SPIRAL;bDANDA",
    "bl DANDA;bTRIPLE DANDA;MYANMAR a KHAMTI GA;cCA;cCHA;cJA;cJHA;cNYA;cTTA;cTTHA;cDDA;cDDHA;cDHA",
    "cNA;cSA;cHA;cHHA;cFA;aMODIFIER a KHAMTI REDUPLICATION;aa KHAMTI XA;cZA;cRA",
    "aLOGOGRAM KHAMTI OAY;cQN;cHM;aw AITON EXCLAMATION;cONE;cTWO;aa AITON RA;ag PAO KAREN TONE",
    "bTAI LAING TONE-2;dTONE-5;aa SHWE PALAUNG CHA;dSHA;TAI VIET a LOW KO;cHIGH KO;cLOW KHO",
    "cHIGH KHO;cLOW KHHO;cHIGH KHHO;cLOW GO;cHIGH GO;cLOW NGO;cHIGH NGO;cLOW CO;cHIGH CO;cLOW CHO",
    "cHIGH CHO;cLOW SO;cHIGH SO;cLOW NYO;cHIGH NYO;cLOW DO;cHIGH DO;cLOW TO;cHIGH TO;cLOW THO",
    "cHIGH THO;cLOW NO;cHIGH NO;cLOW BO;cHIGH BO;cLOW PO;cHIGH PO;cLOW PHO;cHIGH PHO;cLOW FO",
    "cHIGH FO;cLOW MO;cHIGH MO;cLOW YO;cHIGH YO;cLOW RO;cHIGH RO;cLOW LO;cHIGH LO;cLOW VO;cHIGH VO",
    "cLOW HO;cHIGH HO;cLOW O;cHIGH O;bMAI KANG;bVOWEL AA;cI;cUE;cU;cE;cO;bMAI KHIT;bVOWEL IA;cUEA",
    "cUA;cAUE;cAY;cAN;cAM;bTONE MAI EK;dNUENG;dTHO;dSONG"]),
   (0xaadb, [
    "TAI VIET w KON;cNUENG;cSAM;cHO HOI;cKOI KOI;MEETEI MAYEK a E;cO;cCHA;cNYA;cTTA;cTTHA;cDDA",
    "cDDHA;cNNA;cSHA;cSSA;bVOWEL g II;dUU;dAAI;dAU;dAAU;bCHEIKHAN;bAHANG KHUDAM;bANJI",
    "bSYLLABLE REPETITION MARK;bWORD REPETITION MARK;bVOWEL g VISARGA;bVIRAMA;-10",
    "ETHIOPIC SYLLABLE TTHU;bTTHI;bTTHAA;bTTHEE;bTTHE;bTTHO;-2;bDDHU;bDDHI;bDDHAA;bDDHEE;bDDHE",
    "bDDHO;-2;bDZU;bDZI;bDZAA;bDZEE;bDZE;bDZO;-9;bCCHHA;bCCHHU;bCCHHI;bCCHHAA;bCCHHEE;bCCHHE",
    "bCCHHO;-1;bBBA;bBBU;bBBI;bBBAA;bBBEE;bBBE;bBBO;-1;LATIN d a BARRED ALPHA;cA REVERSED-SCHWA",
    "cBLACKLETTER E;cBARRED E;cE b FLOURISH;cLENIS F;cSCRIPT G b CROSSED-TAIL;cL b INVERTED LAZY S",
    "el MIDDLE TILDE;eMIDDLE RING;cM b CROSSED-TAIL;cN b CROSSED-TAIL;cENG b CROSSED-TAIL",
    "cBLACKLETTER O;eb v;cOPEN O b v;cINVERTED OE;cTURNED OE b v;fy v;dO OPEN-O;fb v;cSTIRRUP R",
    "aa d c R b h LEG;ad a R WITHOUT HANDLE;cl R;cR b CROSSED-TAIL;cl R b CROSSED-TAIL;cSCRIPT R",
    "eb RING;cBASELINE ESH;cU b SHORT h LEG;dBAR b SHORT h LEG;cUI;cTURNED UI;cU b o HOOK;cCHI",
    "db LOW h RING;fo SERIF;cX b LOW h RING;eLONG o LEG;hp LOW h RING;hb SERIF;cY b SHORT h LEG",
    "MODIFIER BREVE b INVERTED BREVE;aa d HENG;cL b INVERTED LAZY S;eMIDDLE TILDE;cU b o HOOK",
    "LATIN d a SAKHA YAT;cIOTIFIED E;cOPEN OE;cUO;cINVERTED ALPHA;GREEK a d c OMEGA",
    "LATIN d a DZ DIGRAPH b RETROFLEX HOOK;cTS DIGRAPH b RETROFLEX HOOK;cTURNED R b MIDDLE TILDE",
    "MODIFIER a d TURNED W;bo TACK;bh TACK;-4;CHEROKEE d a A;cE;cI;cO;cU;cV;cGA;cKA;cGE;cGI;cGO",
    "cGU;cGV;cHA;cHE;cHI;cHO;cHU;cHV;cLA;cLE;cLI;cLO;cLU;cLV;cMA;cME;cMI;cMO;cMU;cNA;cHNA;cNAH;cNE",
    "cNI;cNO;cNU;cNV;cQUA;cQUE;cQUI;cQUO;cQUU;cQUV;cSA;cS;cSE;cSI;cSO;cSU;cSV;cDA;cTA;cDE;cTE;cDI",
    "cTI;cDO;cDU;cDV;cDLA;cTLA;cTLE;cTLI;cTLO;cTLU;cTLV;cTSA;cTSE;cTSI;cTSO;cTSU;cTSV;cWA;cWE;cWI",
    "cWO;cWU;cWV;cYA;MEETEI MAYEK a KOK;cSAM;cLAI;cMIT;cPA;cNA;cCHIL;cTIL;cKHOU;cNGOU;cTHOU;cWAI",
    "cYANG;cHUK;cUN;cI;cPHAM;cATIYA;cGOK;cJHAM;cRAI;cBA;cJIL;cDIL;cGHOU;cDHOU;cBHAM;cKOK LONSUM",
    "cLAI LONSUM;cMIT LONSUM;cPA LONSUM;cNA LONSUM;cTIL LONSUM;cNGOU LONSUM;cI LONSUM",
    "bVOWEL g ONAP;dINAP;dANAP;dYENAP;dSOUNAP;dUNAP;dCHEINAP;dNUNG;bCHEIKHEI;bLUM IYEK;bAPUN IYEK",
    "-2;bDIGIT ZERO;cONE;cTWO;ct;cFOUR;cFIVE;cSIX;cSEVEN;cEIGHT;cNINE"]),
   (0xd7b0, [
    "HANGUL JUNGSEONG O-YEO;bO-O-I;bYO-A;bYO-AE;bYO-EO;bU-YEO;bU-I-I;bYU-AE;bYU-O;bEU-A;bEU-EO",
    "bEU-E;bEU-O;bI-YA-O;bI-YAE;bI-YEO;bI-YE;bI-O-I;bI-YO;bI-YU;bI-I;bARAEA-A;bARAEA-E;-4",
    "aJONGSEONG NIEUN-RIEUL;bNIEUN-CHIEUCH;bSSANGTIKEUT;bSSANGTIKEUT-PIEUP;bTIKEUT-PIEUP",
    "bTIKEUT-SIOS;bTIKEUT-SIOS-KIYEOK;bTIKEUT-CIEUC;bTIKEUT-CHIEUCH;bTIKEUT-THIEUTH",
    "bRIEUL-SSANGKIYEOK;bRIEUL-KIYEOK-HIEUH;bSSANGRIEUL-KHIEUKH;bRIEUL-MIEUM-HIEUH",
    "bRIEUL-PIEUP-TIKEUT;bRIEUL-PIEUP-PHIEUPH;bRIEUL-YESIEUNG;bRIEUL-YEORINHIEUH-HIEUH",
    "bKAPYEOUNRIEUL;bMIEUM-NIEUN;bMIEUM-SSANGNIEUN;bSSANGMIEUM;bMIEUM-PIEUP-SIOS;bMIEUM-CIEUC",
    "bPIEUP-TIKEUT;bPIEUP-RIEUL-PHIEUPH;bPIEUP-MIEUM;bSSANGPIEUP;bPIEUP-SIOS-TIKEUT;bPIEUP-CIEUC",
    "bPIEUP-CHIEUCH;bSIOS-MIEUM;bSIOS-KAPYEOUNPIEUP;bSSANGSIOS-KIYEOK;bSSANGSIOS-TIKEUT",
    "bSIOS-PANSIOS;bSIOS-CIEUC;bSIOS-CHIEUCH;bSIOS-THIEUTH;bSIOS-HIEUH;bPANSIOS-PIEUP",
    "bPANSIOS-KAPYEOUNPIEUP;bYESIEUNG-MIEUM;bYESIEUNG-HIEUH;bCIEUC-PIEUP;bCIEUC-SSANGPIEUP",
    "bSSANGCIEUC;bPHIEUPH-SIOS;bPHIEUPH-THIEUTH"]),
   (0xfb00, [
    "LATIN d LIGATURE FF;cFI;cFL;cFFI;cFFL;cLONG S T;cST;-12;ARMENIAN d LIGATURE MEN NOW;dECH;dINI",
    "cVEW NOW;cMEN XEH;-5;HEBREW a YOD b HIRIQ;aPOINT JUDEO-SPANISH VARIKA",
    "aLIGATURE YIDDISH YOD YOD PATAH;aa ALTERNATIVE AYIN;bWIDE ALEF;cDALET;cHE;cKAF;cLAMED;cn MEM",
    "cRESH;cTAV;bALTERNATIVE PLUS g;bSHIN b SHIN DOT;dSIN DOT;dDAGESH p SHIN DOT;fSIN DOT",
    "bALEF b PATAH;dQAMATS;dMAPIQ;bBET b DAGESH;bGIMEL b DAGESH;bDALET b DAGESH;bHE b MAPIQ",
    "bVAV b DAGESH;bZAYIN b DAGESH;-1;bTET b DAGESH;bYOD b DAGESH;bn KAF b DAGESH;bKAF b DAGESH",
    "bLAMED b DAGESH;-1;bMEM b DAGESH;-1;bNUN b DAGESH;bSAMEKH b DAGESH;-1;bn PE b DAGESH",
    "bPE b DAGESH;-1;bTSADI b DAGESH;bQOF b DAGESH;bRESH b DAGESH;bSHIN b DAGESH;bTAV b DAGESH",
    "bVAV b HOLAM;bBET b RAFE;bKAF b RAFE;bPE b RAFE;aLIGATURE ALEF LAMED;ARABIC a ALEF WASLA j e",
    "dn e;bBEEH j e;cn e;cs e;cMEDIAL e;bPEH j e;cn e;cs e;cMEDIAL e;bBEHEH j e;cn e;cs e",
    "cMEDIAL e;bTTEHEH j e;cn e;cs e;cMEDIAL e;bTEHEH j e;cn e;cs e;cMEDIAL e;bTTEH j e;cn e;cs e",
    "cMEDIAL e;bVEH j e;cn e;cs e;cMEDIAL e;bPEHEH j e;cn e;cs e;cMEDIAL e;bDYEH j e;cn e;cs e",
    "cMEDIAL e;bNYEH j e;cn e;cs e;cMEDIAL e;bTCHEH j e;cn e;cs e;cMEDIAL e;bTCHEHEH j e;cn e;cs e",
    "cMEDIAL e;bDDAHAL j e;cn e;bDAHAL j e;cn e;bDUL j e;cn e;bDDAL j e;cn e;bJEH j e;cn e",
    "bRREH j e;cn e;bKEHEH j e;cn e;cs e;cMEDIAL e;bGAF j e;cn e;cs e;cMEDIAL e;bGUEH j e;cn e",
    "cs e;cMEDIAL e;bNGOEH j e;cn e;cs e;cMEDIAL e;bNOON GHUNNA j e;dn e;bRNOON j e;cn e;cs e",
    "cMEDIAL e;bHEH b YEH i j e;fn e;cGOAL j e;dn e;ds e;dMEDIAL e;cDOACHASHMEE j e;dn e;ds e",
    "dMEDIAL e;bYEH BARREE j e;dn e;db HAMZA i j e;gn e;aw DOT i;cm;bTWO DOTS i;dm;bt DOTS i;dm",
    "dPOINTING DOWNWARDS i;fm;bFOUR DOTS i;dm;bl q BAR m;bTWO DOTS VERTICALLY i;em;bRING;bd TAH i",
    "dm;bWASLA i;-16;aa NG j e;cn e;cs e;cMEDIAL e;bU j e;cn e;bOE j e;cn e;bYU j e;cn e",
    "bU b HAMZA i j e;bVE j e;cn e;bKIRGHIZ OE j e;dn e;cYU j e;dn e;bE j e;cn e;cs e;cMEDIAL e",
    "bUIGHUR KAZAKH KIRGHIZ ALEF MAKSURA s e;gMEDIAL e;aLIGATURE YEH b HAMZA i b ALEF j e;hn e",
    "gAE j e;hn e;gWAW j e;hn e;gU j e;hn e;gOE j e;hn e;gYU j e;hn e;gE j e;hn e;hs e",
    "bUIGHUR KIRGHIZ YEH b HAMZA i b ALEF MAKSURA j e;kn e;ks e;aa FARSI YEH j e;dn e;ds e",
    "dMEDIAL e;aLIGATURE YEH b HAMZA i b JEEM j e;gHAH j e;gMEEM j e;gALEF MAKSURA j e;gYEH j e",
    "bBEH b JEEM j e;dHAH j e;dKHAH j e;dMEEM j e;dALEF MAKSURA j e;dYEH j e;bTEH b JEEM j e",
    "dHAH j e;dKHAH j e;dMEEM j e;dALEF MAKSURA j e;dYEH j e;bTHEH b JEEM j e;dMEEM j e",
    "dALEF MAKSURA j e;dYEH j e;bJEEM b HAH j e;dMEEM j e;bHAH b JEEM j e;dMEEM j e",
    "bKHAH b JEEM j e;dHAH j e;dMEEM j e;bSEEN b JEEM j e;dHAH j e;dKHAH j e;dMEEM j e",
    "bSAD b HAH j e;dMEEM j e;bDAD b JEEM j e;dHAH j e;dKHAH j e;dMEEM j e;bTAH b HAH j e",
    "dMEEM j e;bZAH b MEEM j e;bAIN b JEEM j e;dMEEM j e;bGHAIN b JEEM j e;dMEEM j e",
    "bFEH b JEEM j e;dHAH j e;dKHAH j e;dMEEM j e;dALEF MAKSURA j e;dYEH j e;bQAF b HAH j e",
    "dMEEM j e;dALEF MAKSURA j e;dYEH j e;bKAF b ALEF j e;dJEEM j e;dHAH j e;dKHAH j e;dLAM j e",
    "dMEEM j e;dALEF MAKSURA j e;dYEH j e;bLAM b JEEM j e;dHAH j e;dKHAH j e;dMEEM j e",
    "dALEF MAKSURA j e;dYEH j e;bMEEM b JEEM j e;dHAH j e;dKHAH j e;dMEEM j e;dALEF MAKSURA j e",
    "dYEH j e;bNOON b JEEM j e;dHAH j e;dKHAH j e;dMEEM j e;dALEF MAKSURA j e;dYEH j e",
    "bHEH b JEEM j e;dMEEM j e;dALEF MAKSURA j e;dYEH j e;bYEH b JEEM j e;dHAH j e;dKHAH j e",
    "dMEEM j e;dALEF MAKSURA j e;dYEH j e;bTHAL b SUPERSCRIPT ALEF j e;bREH b SUPERSCRIPT ALEF j e",
    "bALEF MAKSURA b SUPERSCRIPT ALEF j e;bSHADDA b DAMMATAN j e;dKASRATAN j e;dFATHA j e",
    "dDAMMA j e;dKASRA j e;dSUPERSCRIPT ALEF j e;bYEH b HAMZA i b REH n e;gZAIN n e;gMEEM n e",
    "gNOON n e;gALEF MAKSURA n e;gYEH n e;bBEH b REH n e;dZAIN n e;dMEEM n e;dNOON n e",
    "dALEF MAKSURA n e;dYEH n e;bTEH b REH n e;dZAIN n e;dMEEM n e;dNOON n e;dALEF MAKSURA n e",
    "dYEH n e;bTHEH b REH n e;dZAIN n e;dMEEM n e;dNOON n e;dALEF MAKSURA n e;dYEH n e",
    "bFEH b ALEF MAKSURA n e;dYEH n e;bQAF b ALEF MAKSURA n e;dYEH n e;bKAF b ALEF n e;dLAM n e",
    "dMEEM n e;dALEF MAKSURA n e;dYEH n e;bLAM b MEEM n e;dALEF MAKSURA n e;dYEH n e",
    "bMEEM b ALEF n e;dMEEM n e;bNOON b REH n e;dZAIN n e;dMEEM n e;dNOON n e;dALEF MAKSURA n e",
    "dYEH n e;bALEF MAKSURA b SUPERSCRIPT ALEF n e;bYEH b REH n e;dZAIN n e;dMEEM n e;dNOON n e",
    "dALEF MAKSURA n e;dYEH n e;dHAMZA i b JEEM s e;gHAH s e;gKHAH s e;gMEEM s e;gHEH s e",
    "bBEH b JEEM s e;dHAH s e;dKHAH s e;dMEEM s e;dHEH s e;bTEH b JEEM s e;dHAH s e;dKHAH s e",
    "dMEEM s e;dHEH s e;bTHEH b MEEM s e;bJEEM b HAH s e;dMEEM s e;bHAH b JEEM s e;dMEEM s e",
    "bKHAH b JEEM s e;dMEEM s e;bSEEN b JEEM s e;dHAH s e;dKHAH s e;dMEEM s e;bSAD b HAH s e",
    "dKHAH s e;dMEEM s e;bDAD b JEEM s e;dHAH s e;dKHAH s e;dMEEM s e;bTAH b HAH s e",
    "bZAH b MEEM s e;bAIN b JEEM s e;dMEEM s e;bGHAIN b JEEM s e;dMEEM s e;bFEH b JEEM s e",
    "dHAH s e;dKHAH s e;dMEEM s e;bQAF b HAH s e;dMEEM s e;bKAF b JEEM s e;dHAH s e;dKHAH s e",
    "dLAM s e;dMEEM s e;bLAM b JEEM s e;dHAH s e;dKHAH s e;dMEEM s e;dHEH s e;bMEEM b JEEM s e",
    "dHAH s e;dKHAH s e;dMEEM s e;bNOON b JEEM s e;dHAH s e;dKHAH s e;dMEEM s e;dHEH s e",
    "bHEH b JEEM s e;dMEEM s e;dSUPERSCRIPT ALEF s e;bYEH b JEEM s e;dHAH s e;dKHAH s e;dMEEM s e",
    "dHEH s e;dHAMZA i b MEEM MEDIAL e;gHEH MEDIAL e;bBEH b MEEM MEDIAL e;dHEH MEDIAL e",
    "bTEH b MEEM MEDIAL e;dHEH MEDIAL e;bTHEH b MEEM MEDIAL e;dHEH MEDIAL e;bSEEN b MEEM MEDIAL e",
    "dHEH MEDIAL e;bSHEEN b MEEM MEDIAL e;dHEH MEDIAL e;bKAF b LAM MEDIAL e;dMEEM MEDIAL e",
    "bLAM b MEEM MEDIAL e;bNOON b MEEM MEDIAL e;dHEH MEDIAL e;bYEH b MEEM MEDIAL e;dHEH MEDIAL e",
    "bSHADDA b FATHA MEDIAL e;dDAMMA MEDIAL e;dKASRA MEDIAL e;bTAH b ALEF MAKSURA j e;dYEH j e",
    "bAIN b ALEF MAKSURA j e;dYEH j e;bGHAIN b ALEF MAKSURA j e;dYEH j e;bSEEN b ALEF MAKSURA j e",
    "dYEH j e;bSHEEN b ALEF MAKSURA j e;dYEH j e;bHAH b ALEF MAKSURA j e;dYEH j e",
    "bJEEM b ALEF MAKSURA j e;dYEH j e;bKHAH b ALEF MAKSURA j e;dYEH j e;bSAD b ALEF MAKSURA j e",
    "dYEH j e;bDAD b ALEF MAKSURA j e;dYEH j e;bSHEEN b JEEM j e;dHAH j e;dKHAH j e;dMEEM j e",
    "dREH j e;bSEEN b REH j e;bSAD b REH j e;bDAD b REH j e;bTAH b ALEF MAKSURA n e;dYEH n e",
    "bAIN b ALEF MAKSURA n e;dYEH n e;bGHAIN b ALEF MAKSURA n e;dYEH n e;bSEEN b ALEF MAKSURA n e",
    "dYEH n e;bSHEEN b ALEF MAKSURA n e;dYEH n e;bHAH b ALEF MAKSURA n e;dYEH n e",
    "bJEEM b ALEF MAKSURA n e;dYEH n e;bKHAH b ALEF MAKSURA n e;dYEH n e;bSAD b ALEF MAKSURA n e",
    "dYEH n e;bDAD b ALEF MAKSURA n e;dYEH n e;bSHEEN b JEEM n e;dHAH n e;dKHAH n e;dMEEM n e",
    "dREH n e;bSEEN b REH n e;bSAD b REH n e;bDAD b REH n e;bSHEEN b JEEM s e;dHAH s e;dKHAH s e",
    "dMEEM s e;bSEEN b HEH s e;bSHEEN b HEH s e;bTAH b MEEM s e;bSEEN b JEEM MEDIAL e",
    "dHAH MEDIAL e;dKHAH MEDIAL e;bSHEEN b JEEM MEDIAL e;dHAH MEDIAL e;dKHAH MEDIAL e",
    "bTAH b MEEM MEDIAL e;bZAH b MEEM MEDIAL e;bALEF b FATHATAN n e;ej e;ORNATE o PARENTHESIS",
    "ah PARENTHESIS;ARABIC LIGATURE RAHIMAHU ALLAAH;bRADI ALLAAHU ANH;dANHAA;dANHUM;dANHUMAA",
    "dANHUNNA;bSALLALLAAHU ALAYHI WA-AALIH;bALAYHI AS-SALAAM;bALAYHIM AS-SALAAM",
    "bALAYHIMAA AS-SALAAM;bALAYHI AS-SALAATU WAS-SALAAM;bQUDDISA SIRRAH",
    "bSALLALLAHU ALAYHI WAAALIHEE WA-SALLAM;bALAYHAA AS-SALAAM;bTABAARAKA WA-TAAALAA",
    "bRAHIMAHUM ALLAAH;bTEH b JEEM b MEEM s e;dHAH b JEEM n e;gs e;fMEEM s e;dKHAH b MEEM s e",
    "dMEEM b JEEM s e;fHAH s e;fKHAH s e;bJEEM b MEEM b HAH n e;gs e;bHAH b MEEM b YEH n e",
    "fALEF MAKSURA n e;bSEEN b HAH b JEEM s e;dJEEM b HAH s e;fALEF MAKSURA n e;dMEEM b HAH n e",
    "gs e;fJEEM s e;fMEEM n e;gs e;bSAD b HAH b HAH n e;gs e;dMEEM b MEEM n e",
    "bSHEEN b HAH b MEEM n e;gs e;dJEEM b YEH n e;dMEEM b KHAH n e;gs e;fMEEM n e;gs e",
    "bDAD b HAH b ALEF MAKSURA n e;dKHAH b MEEM n e;gs e;bTAH b MEEM b HAH n e;gs e;fMEEM s e",
    "fYEH n e;bAIN b JEEM b MEEM n e;dMEEM b MEEM n e;gs e;fALEF MAKSURA n e",
    "bGHAIN b MEEM b MEEM n e;fYEH n e;fALEF MAKSURA n e;bFEH b KHAH b MEEM n e;gs e",
    "bQAF b MEEM b HAH n e;fMEEM n e;bLAM b HAH b MEEM n e;fYEH n e;fALEF MAKSURA n e",
    "dJEEM b JEEM s e;gn e;dKHAH b MEEM n e;gs e;dMEEM b HAH n e;gs e;bMEEM b HAH b JEEM s e",
    "fMEEM s e;fYEH n e;dJEEM b HAH s e;fMEEM s e;dKHAH b JEEM s e;fMEEM s e;-2;dJEEM b KHAH s e",
    "bHEH b MEEM b JEEM s e;fMEEM s e;bNOON b HAH b MEEM s e;fALEF MAKSURA n e;dJEEM b MEEM n e",
    "gs e;fALEF MAKSURA n e;dMEEM b YEH n e;fALEF MAKSURA n e;bYEH b MEEM b MEEM n e;gs e",
    "bBEH b KHAH b YEH n e;bTEH b JEEM b YEH n e;fALEF MAKSURA n e;dKHAH b YEH n e",
    "fALEF MAKSURA n e;dMEEM b YEH n e;fALEF MAKSURA n e;bJEEM b MEEM b YEH n e",
    "dHAH b ALEF MAKSURA n e;dMEEM b ALEF MAKSURA n e;bSEEN b KHAH b ALEF MAKSURA n e",
    "bSAD b HAH b YEH n e;bSHEEN b HAH b YEH n e;bDAD b HAH b YEH n e;bLAM b JEEM b YEH n e",
    "dMEEM b YEH n e;bYEH b HAH b YEH n e;dJEEM b YEH n e;dMEEM b YEH n e;bMEEM b MEEM b YEH n e",
    "bQAF b MEEM b YEH n e;bNOON b HAH b YEH n e;bQAF b MEEM b HAH s e;bLAM b HAH b MEEM s e",
    "bAIN b MEEM b YEH n e;bKAF b MEEM b YEH n e;bNOON b JEEM b HAH s e;bMEEM b KHAH b YEH n e",
    "bLAM b JEEM b MEEM s e;bKAF b MEEM b MEEM n e;bLAM b JEEM b MEEM n e;bNOON b JEEM b HAH n e",
    "bJEEM b HAH b YEH n e;bHAH b JEEM b YEH n e;bMEEM b JEEM b YEH n e;bFEH b MEEM b YEH n e",
    "bBEH b HAH b YEH n e;bKAF b MEEM b MEEM s e;bAIN b JEEM b MEEM s e;bSAD b MEEM b MEEM s e",
    "bSEEN b KHAH b YEH n e;bNOON b JEEM b YEH n e;-7;bSALAAMUHU ALAYNAA"]),
   (0xfdf0, [
    "ARABIC LIGATURE SALLA USED AS KORANIC STOP g j e;bQALA USED AS KORANIC STOP g j e;bALLAH j e",
    "bAKBAR j e;bMOHAMMAD j e;bSALAM j e;bRASOUL j e;bALAYHE j e;bWASALLAM j e;bSALLA j e",
    "bSALLALLAHOU ALAYHE WASALLAM;bJALLAJALALOUHOU;RIAL g",
    "ARABIC LIGATURE BISMILLAH AR-RAHMAN AR-RAHEEM;bSUBHAANAHU WA TAAALAA;bAZZA WA JALL",
    "VARIATION SELECTOR-1;+15;PRESENTATION e FOR q COMMA;dIDEOGRAPHIC COMMA;eFULL STOP;dCOLON",
    "dSEMICOLON;dEXCLAMATION MARK;dQUESTION MARK;do z LENTICULAR BRACKET;dh z LENTICULAR BRAKCET",
    "dy ELLIPSIS;-6;COMBINING LIGATURE o HALF;bh HALF;al TILDE o HALF;ch HALF;aMACRON o HALF",
    "bh HALF;aCONJOINING MACRON;aLIGATURE o HALF m;bh HALF m;aTILDE o HALF m;bh HALF m",
    "aMACRON o HALF m;bh HALF m;aCONJOINING MACRON m;aCYRILLIC TITLO o HALF;ch HALF",
    "PRESENTATION e FOR q TWO DOT LEADER;dEM DASH;dEN DASH;dLOW LINE;dWAVY LOW LINE;do PARENTHESIS",
    "dh PARENTHESIS;do CURLY BRACKET;dh CURLY BRACKET;do TORTOISE SHELL BRACKET",
    "dh TORTOISE SHELL BRACKET;do x LENTICULAR BRACKET;dh x LENTICULAR BRACKET;do l ANGLE BRACKET",
    "dh l ANGLE BRACKET;do ANGLE BRACKET;dh ANGLE BRACKET;do CORNER BRACKET;dh CORNER BRACKET",
    "do z CORNER BRACKET;dh z CORNER BRACKET;SESAME DOT;WHITE SESAME DOT",
    "PRESENTATION e FOR q o SQUARE BRACKET;dh SQUARE BRACKET;DASHED OVERLINE;CENTRELINE OVERLINE",
    "WAVY OVERLINE;DOUBLE WAVY OVERLINE;DASHED LOW LINE;CENTRELINE LOW LINE;WAVY LOW LINE",
    "SMALL COMMA;aIDEOGRAPHIC COMMA;aFULL STOP;-1;aSEMICOLON;aCOLON;aQUESTION MARK",
    "aEXCLAMATION MARK;aEM DASH;ao PARENTHESIS;ah PARENTHESIS;ao CURLY BRACKET;ah CURLY BRACKET",
    "ao TORTOISE SHELL BRACKET;ah TORTOISE SHELL BRACKET;aNUMBER g;aAMPERSAND;aASTERISK;aPLUS g",
    "aHYPHEN-MINUS;aLESS-THAN g;aGREATER-THAN g;aEQUALS g;-1;aREVERSE SOLIDUS;aDOLLAR g;aPERCENT g",
    "aCOMMERCIAL AT;-4;ARABIC FATHATAN j e;aTATWEEL b FATHATAN i;aDAMMATAN j e;aTAIL FRAGMENT",
    "aKASRATAN j e;-1;aFATHA j e;bMEDIAL e;aDAMMA j e;bMEDIAL e;aKASRA j e;bMEDIAL e;aSHADDA j e",
    "bMEDIAL e;aSUKUN j e;bMEDIAL e;aa HAMZA j e;bALEF b MADDA i j e;fn e;dHAMZA i j e;fn e",
    "bWAW b HAMZA i j e;fn e;bALEF b HAMZA m j e;fn e;bYEH b HAMZA i j e;fn e;fs e;fMEDIAL e",
    "bALEF j e;cn e;bBEH j e;cn e;cs e;cMEDIAL e;bTEH MARBUTA j e;dn e;cj e;cn e;cs e;cMEDIAL e",
    "bTHEH j e;cn e;cs e;cMEDIAL e;bJEEM j e;cn e;cs e;cMEDIAL e;bHAH j e;cn e;cs e;cMEDIAL e",
    "bKHAH j e;cn e;cs e;cMEDIAL e;bDAL j e;cn e;bTHAL j e;cn e;bREH j e;cn e;bZAIN j e;cn e",
    "bSEEN j e;cn e;cs e;cMEDIAL e;bSHEEN j e;cn e;cs e;cMEDIAL e;bSAD j e;cn e;cs e;cMEDIAL e",
    "bDAD j e;cn e;cs e;cMEDIAL e;bTAH j e;cn e;cs e;cMEDIAL e;bZAH j e;cn e;cs e;cMEDIAL e",
    "bAIN j e;cn e;cs e;cMEDIAL e;bGHAIN j e;cn e;cs e;cMEDIAL e;bFEH j e;cn e;cs e;cMEDIAL e",
    "bQAF j e;cn e;cs e;cMEDIAL e;bKAF j e;cn e;cs e;cMEDIAL e;bLAM j e;cn e;cs e;cMEDIAL e",
    "bMEEM j e;cn e;cs e;cMEDIAL e;bNOON j e;cn e;cs e;cMEDIAL e;bHEH j e;cn e;cs e;cMEDIAL e",
    "bWAW j e;cn e;bALEF MAKSURA j e;dn e;bYEH j e;cn e;cs e;cMEDIAL e",
    "aLIGATURE LAM b ALEF b MADDA i j e;hn e;fHAMZA i j e;hn e;gm j e;hn e;ej e;en e;-2",
    "ZERO WIDTH NO-BREAK SPACE;-1;FULLWIDTH EXCLAMATION MARK;aQUOTATION MARK;aNUMBER g;aDOLLAR g",
    "aPERCENT g;aAMPERSAND;aAPOSTROPHE;ao PARENTHESIS;ah PARENTHESIS;aASTERISK;aPLUS g;aCOMMA",
    "aHYPHEN-MINUS;aFULL STOP;aSOLIDUS;aDIGIT ZERO;bONE;bTWO;bt;bFOUR;bFIVE;bSIX;bSEVEN;bEIGHT",
    "bNINE;aCOLON;aSEMICOLON;aLESS-THAN g;aEQUALS g;aGREATER-THAN g;aQUESTION MARK;aCOMMERCIAL AT",
    "aLATIN c a A;dB;dC;dD;dE;dF;dG;dH;dI;dJ;dK;dL;dM;dN;dO;dP;dQ;dR;dS;dT;dU;dV;dW;dX;dY;dZ",
    "ao SQUARE BRACKET;aREVERSE SOLIDUS;ah SQUARE BRACKET;aCIRCUMFLEX ACCENT;aLOW LINE",
    "aGRAVE ACCENT;aLATIN d a A;dB;dC;dD;dE;dF;dG;dH;dI;dJ;dK;dL;dM;dN;dO;dP;dQ;dR;dS;dT;dU;dV;dW",
    "dX;dY;dZ;ao CURLY BRACKET;aq LINE;ah CURLY BRACKET;aTILDE;ao z PARENTHESIS;ah z PARENTHESIS",
    "HALFWIDTH IDEOGRAPHIC FULL STOP;ao CORNER BRACKET;ah CORNER BRACKET;aIDEOGRAPHIC COMMA",
    "aKATAKANA MIDDLE DOT;ba WO;cd A;dI;dU;dE;dO;dYA;dYU;dYO;dTU",
    "aKATAKANA-HIRAGANA PROLONGED SOUND MARK;aKATAKANA a A;cI;cU;cE;cO;cKA;cKI;cKU;cKE;cKO;cSA;cSI",
    "cSU;cSE;cSO;cTA;cTI;cTU;cTE;cTO;cNA;cNI;cNU;cNE;cNO;cHA;cHI;cHU;cHE;cHO;cMA;cMI;cMU;cME;cMO",
    "cYA;cYU;cYO;cRA;cRI;cRU;cRE;cRO;cWA;cN;bVOICED SOUND MARK;bSEMI-VOICED SOUND MARK",
    "aHANGUL FILLER;ba KIYEOK;cSSANGKIYEOK;cKIYEOK-SIOS;cNIEUN;cNIEUN-CIEUC;cNIEUN-HIEUH;cTIKEUT",
    "cSSANGTIKEUT;cRIEUL;cRIEUL-KIYEOK;cRIEUL-MIEUM;cRIEUL-PIEUP;cRIEUL-SIOS;cRIEUL-THIEUTH",
    "cRIEUL-PHIEUPH;cRIEUL-HIEUH;cMIEUM;cPIEUP;cSSANGPIEUP;cPIEUP-SIOS;cSIOS;cSSANGSIOS;cIEUNG",
    "cCIEUC;cSSANGCIEUC;cCHIEUCH;cKHIEUKH;cTHIEUTH;cPHIEUPH;cHIEUH;-3;cA;cAE;cYA;cYAE;cEO;cE;-2",
    "cYEO;cYE;cO;cWA;cWAE;cOE;-2;cYO;cU;cWEO;cWE;cWI;cYU;-2;cEU;cYI;cI;-3;FULLWIDTH CENT g",
    "aPOUND g;aNOT g;aMACRON;aBROKEN BAR;aYEN g;aWON g;-1;HALFWIDTH FORMS LIGHT q;ar f;aUPWARDS f",
    "ak f;aDOWNWARDS f;ax SQUARE;az CIRCLE;-10;INTERLINEAR ANNOTATION ANCHOR;bSEPARATOR",
    "bTERMINATOR;OBJECT REPLACEMENT CHARACTER;REPLACEMENT CHARACTER"])]

end Text
end Literate
