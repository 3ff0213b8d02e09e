import Literate.Text.Name.Run

/-!
# Names of characters: scripts

The characters of the alphabets and syllabaries with the lowest code points.
-/

namespace Literate
namespace Text

/-- The names of the characters below U+2000. -/
def scriptNames : NameRuns :=
  [(0x20, [
    "SPACE;EXCLAMATION MARK;QUOTATION MARK;NUMBER g;DOLLAR g;PERCENT g;AMPERSAND;APOSTROPHE",
    "LEFT PARENTHESIS;RIGHT PARENTHESIS;ASTERISK;PLUS g;COMMA;HYPHEN-MINUS;FULL STOP;SOLIDUS",
    "DIGIT ZERO;aONE;aTWO;at;aFOUR;aFIVE;aSIX;aSEVEN;aEIGHT;aNINE;COLON;SEMICOLON;LESS-THAN g",
    "EQUALS g;GREATER-THAN g;QUESTION MARK;COMMERCIAL AT;LATIN c a A;cB;cC;cD;cE;cF;cG;cH;cI;cJ;cK",
    "cL;cM;cN;cO;cP;cQ;cR;cS;cT;cU;cV;cW;cX;cY;cZ;LEFT SQUARE BRACKET;REVERSE SOLIDUS",
    "RIGHT SQUARE BRACKET;CIRCUMFLEX ACCENT;LOW LINE;GRAVE ACCENT;LATIN d a A;cB;cC;cD;cE;cF;cG;cH",
    "cI;cJ;cK;cL;cM;cN;cO;cP;cQ;cR;cS;cT;cU;cV;cW;cX;cY;cZ;LEFT CURLY BRACKET;VERTICAL LINE",
    "RIGHT CURLY BRACKET;TILDE"]),
   (0xa0, [
    "NO-BREAK SPACE;INVERTED EXCLAMATION MARK;CENT g;POUND g;CURRENCY g;YEN g;BROKEN BAR;SECTION g",
    "DIAERESIS;COPYRIGHT g;FEMININE ORDINAL INDICATOR;LEFT-POINTING l ANGLE QUOTATION MARK;NOT g",
    "SOFT HYPHEN;REGISTERED g;MACRON;DEGREE g;PLUS-MINUS g;SUPERSCRIPT TWO;at;ACUTE ACCENT;MICRO g",
    "PILCROW g;MIDDLE DOT;CEDILLA;SUPERSCRIPT ONE;MASCULINE ORDINAL INDICATOR",
    "RIGHT-POINTING l ANGLE QUOTATION MARK;VULGAR FRACTION ONE QUARTER;cHALF;bt QUARTERS",
    "INVERTED QUESTION MARK;LATIN c a A b GRAVE;eACUTE;eCIRCUMFLEX;eTILDE;eDIAERESIS;eRING i;cAE",
    "cC b CEDILLA;cE b GRAVE;eACUTE;eCIRCUMFLEX;eDIAERESIS;cI b GRAVE;eACUTE;eCIRCUMFLEX",
    "eDIAERESIS;cETH;cN b TILDE;cO b GRAVE;eACUTE;eCIRCUMFLEX;eTILDE;eDIAERESIS;MULTIPLICATION g",
    "LATIN c a O b v;cU b GRAVE;eACUTE;eCIRCUMFLEX;eDIAERESIS;cY b ACUTE;cTHORN;ad a SHARP S",
    "cA b GRAVE;eACUTE;eCIRCUMFLEX;eTILDE;eDIAERESIS;eRING i;cAE;cC b CEDILLA;cE b GRAVE;eACUTE",
    "eCIRCUMFLEX;eDIAERESIS;cI b GRAVE;eACUTE;eCIRCUMFLEX;eDIAERESIS;cETH;cN b TILDE;cO b GRAVE",
    "eACUTE;eCIRCUMFLEX;eTILDE;eDIAERESIS;DIVISION g;LATIN d a O b v;cU b GRAVE;eACUTE;eCIRCUMFLEX",
    "eDIAERESIS;cY b ACUTE;cTHORN;cY b DIAERESIS;ac a A b MACRON;ad a A b MACRON;ac a A b BREVE",
    "ad a A b BREVE;ac a A b OGONEK;ad a A b OGONEK;ac a C b ACUTE;ad a C b ACUTE",
    "ac a C b CIRCUMFLEX;ad a C b CIRCUMFLEX;ac a C b DOT i;ad a C b DOT i;ac a C b CARON",
    "ad a C b CARON;ac a D b CARON;ad a D b CARON;ac a D b v;ad a D b v;ac a E b MACRON",
    "ad a E b MACRON;ac a E b BREVE;ad a E b BREVE;ac a E b DOT i;ad a E b DOT i;ac a E b OGONEK",
    "ad a E b OGONEK;ac a E b CARON;ad a E b CARON;ac a G b CIRCUMFLEX;ad a G b CIRCUMFLEX",
    "ac a G b BREVE;ad a G b BREVE;ac a G b DOT i;ad a G b DOT i;ac a G b CEDILLA;ad a G b CEDILLA",
    "ac a H b CIRCUMFLEX;ad a H b CIRCUMFLEX;ac a H b v;ad a H b v;ac a I b TILDE;ad a I b TILDE",
    "ac a I b MACRON;ad a I b MACRON;ac a I b BREVE;ad a I b BREVE;ac a I b OGONEK;ad a I b OGONEK",
    "ac a I b DOT i;ad a DOTLESS I;ac LIGATURE IJ;ad LIGATURE IJ;ac a J b CIRCUMFLEX",
    "ad a J b CIRCUMFLEX;ac a K b CEDILLA;ad a K b CEDILLA;cKRA;ac a L b ACUTE;ad a L b ACUTE",
    "ac a L b CEDILLA;ad a L b CEDILLA;ac a L b CARON;ad a L b CARON;ac a L b MIDDLE DOT",
    "ad a L b MIDDLE DOT;ac a L b v;ad a L b v;ac a N b ACUTE;ad a N b ACUTE;ac a N b CEDILLA",
    "ad a N b CEDILLA;ac a N b CARON;ad a N b CARON;dPRECEDED BY APOSTROPHE;ac a ENG;ad a ENG",
    "ac a O b MACRON;ad a O b MACRON;ac a O b BREVE;ad a O b BREVE;ac a O b l ACUTE",
    "ad a O b l ACUTE;ac LIGATURE OE;ad LIGATURE OE;ac a R b ACUTE;ad a R b ACUTE;ac a R b CEDILLA",
    "ad a R b CEDILLA;ac a R b CARON;ad a R b CARON;ac a S b ACUTE;ad a S b ACUTE",
    "ac a S b CIRCUMFLEX;ad a S b CIRCUMFLEX;ac a S b CEDILLA;ad a S b CEDILLA;ac a S b CARON",
    "ad a S b CARON;ac a T b CEDILLA;ad a T b CEDILLA;ac a T b CARON;ad a T b CARON;ac a T b v",
    "ad a T b v;ac a U b TILDE;ad a U b TILDE;ac a U b MACRON;ad a U b MACRON;ac a U b BREVE",
    "ad a U b BREVE;ac a U b RING i;ad a U b RING i;ac a U b l ACUTE;ad a U b l ACUTE",
    "ac a U b OGONEK;ad a U b OGONEK;ac a W b CIRCUMFLEX;ad a W b CIRCUMFLEX;ac a Y b CIRCUMFLEX",
    "ad a Y b CIRCUMFLEX;ac a Y b DIAERESIS;cZ b ACUTE;ad a Z b ACUTE;ac a Z b DOT i",
    "ad a Z b DOT i;ac a Z b CARON;ad a Z b CARON;cLONG S;cB b v;ac a B b HOOK;eTOPBAR",
    "ad a B b TOPBAR;ac a TONE SIX;ad a TONE SIX;ac a OPEN O;cC b HOOK;ad a C b HOOK",
    "ac a AFRICAN D;cD b HOOK;eTOPBAR;ad a D b TOPBAR;cTURNED DELTA;ac a REVERSED E;cSCHWA;cOPEN E",
    "cF b HOOK;ad a F b HOOK;ac a G b HOOK;cGAMMA;ad a HV;ac a IOTA;cI b v;cK b HOOK;ad a K b HOOK",
    "cL b BAR;cLAMBDA b v;ac a TURNED M;cN b o HOOK;ad a N b LONG h LEG;ac a O b MIDDLE TILDE",
    "eHORN;ad a O b HORN;ac a OI;ad a OI;ac a P b HOOK;ad a P b HOOK;aa YR;ac a TONE TWO",
    "ad a TONE TWO;ac a ESH;aa REVERSED ESH LOOP;ad a T b PALATAL HOOK;ac a T b HOOK;ad a T b HOOK",
    "ac a T b RETROFLEX HOOK;cU b HORN;ad a U b HORN;ac a UPSILON;cV b HOOK;cY b HOOK",
    "ad a Y b HOOK;ac a Z b v;ad a Z b v;ac a EZH;dREVERSED;ad a EZH REVERSED;db TAIL;aa TWO b v",
    "ac a TONE FIVE;ad a TONE FIVE;aa INVERTED GLOTTAL STOP b v;bWYNN;bDENTAL CLICK;bLATERAL CLICK",
    "bALVEOLAR CLICK;bRETROFLEX CLICK;ac a DZ b CARON;cD b d a Z b CARON;ad a DZ b CARON;ac a LJ",
    "cL b d a J;ad a LJ;ac a NJ;cN b d a J;ad a NJ;ac a A b CARON;ad a A b CARON;ac a I b CARON",
    "ad a I b CARON;ac a O b CARON;ad a O b CARON;ac a U b CARON;ad a U b CARON",
    "ac a U b DIAERESIS p MACRON;ad a U b DIAERESIS p MACRON;ac a U b DIAERESIS p ACUTE",
    "ad a U b DIAERESIS p ACUTE;ac a U b DIAERESIS p CARON;ad a U b DIAERESIS p CARON",
    "ac a U b DIAERESIS p GRAVE;ad a U b DIAERESIS p GRAVE;cTURNED E;ac a A b DIAERESIS p MACRON",
    "ad a A b DIAERESIS p MACRON;ac a A b DOT i p MACRON;ad a A b DOT i p MACRON;ac a AE b MACRON",
    "ad a AE b MACRON;ac a G b v;ad a G b v;ac a G b CARON;ad a G b CARON;ac a K b CARON",
    "ad a K b CARON;ac a O b OGONEK;ad a O b OGONEK;ac a O b OGONEK p MACRON",
    "ad a O b OGONEK p MACRON;ac a EZH b CARON;ad a EZH b CARON;cJ b CARON;ac a DZ;cD b d a Z",
    "ad a DZ;ac a G b ACUTE;ad a G b ACUTE;ac a HWAIR;cWYNN;cN b GRAVE;ad a N b GRAVE",
    "ac a A b RING i p ACUTE;ad a A b RING i p ACUTE;ac a AE b ACUTE;ad a AE b ACUTE",
    "ac a O b v p ACUTE;ad a O b v p ACUTE;ac a A b l GRAVE;ad a A b l GRAVE",
    "ac a A b INVERTED BREVE;ad a A b INVERTED BREVE;ac a E b l GRAVE;ad a E b l GRAVE",
    "ac a E b INVERTED BREVE;ad a E b INVERTED BREVE;ac a I b l GRAVE;ad a I b l GRAVE",
    "ac a I b INVERTED BREVE;ad a I b INVERTED BREVE;ac a O b l GRAVE;ad a O b l GRAVE",
    "ac a O b INVERTED BREVE;ad a O b INVERTED BREVE;ac a R b l GRAVE;ad a R b l GRAVE",
    "ac a R b INVERTED BREVE;ad a R b INVERTED BREVE;ac a U b l GRAVE;ad a U b l GRAVE",
    "ac a U b INVERTED BREVE;ad a U b INVERTED BREVE;ac a S b COMMA m;ad a S b COMMA m",
    "ac a T b COMMA m;ad a T b COMMA m;ac a YOGH;ad a YOGH;ac a H b CARON;ad a H b CARON",
    "ac a N b LONG h LEG;ad a D b CURL;ac a OU;ad a OU;ac a Z b HOOK;ad a Z b HOOK;ac a A b DOT i",
    "ad a A b DOT i;ac a E b CEDILLA;ad a E b CEDILLA;ac a O b DIAERESIS p MACRON",
    "ad a O b DIAERESIS p MACRON;ac a O b TILDE p MACRON;ad a O b TILDE p MACRON;ac a O b DOT i",
    "ad a O b DOT i;ac a O b DOT i p MACRON;ad a O b DOT i p MACRON;ac a Y b MACRON",
    "ad a Y b MACRON;cL b CURL;cN b CURL;cT b CURL;cDOTLESS J;cDB DIGRAPH;cQP DIGRAPH;ac a A b v",
    "cC b v;ad a C b v;ac a L b BAR;cT b DIAGONAL v;ad a S b SWASH TAIL;cZ b SWASH TAIL",
    "ac a GLOTTAL STOP;ad a GLOTTAL STOP;ac a B b v;cU BAR;cTURNED V;cE b v;ad a E b v;ac a J b v",
    "ad a J b v;ac a d Q b HOOK TAIL;ad a Q b HOOK TAIL;ac a R b v;ad a R b v;ac a Y b v",
    "ad a Y b v;cTURNED A;cALPHA;cTURNED ALPHA;cB b HOOK;cOPEN O;cC b CURL;cD b TAIL;eHOOK",
    "cREVERSED E;cSCHWA;db HOOK;cOPEN E;cREVERSED OPEN E;fb HOOK;cCLOSED REVERSED OPEN E",
    "cDOTLESS J b v;cG b HOOK;cSCRIPT G;aa d c G;ad a GAMMA;cRAMS HORN;cTURNED H;cH b HOOK",
    "cHENG b HOOK;cI b v;cIOTA;aa d c I;ad a L b MIDDLE TILDE;eBELT;eRETROFLEX HOOK;cLEZH",
    "cTURNED M;eb LONG LEG;cM b HOOK;cN b o HOOK;eRETROFLEX HOOK;aa d c N;ad a BARRED O;aa d c OE",
    "ad a CLOSED OMEGA;cPHI;cTURNED R;eb LONG LEG;fHOOK;cR b LONG LEG;eTAIL;eFISHHOOK",
    "cREVERSED R b FISHHOOK;aa d c R;dINVERTED R;ad a S b HOOK;cESH;cDOTLESS J b v p HOOK",
    "cSQUAT REVERSED ESH;cESH b CURL;cTURNED T;cT b RETROFLEX HOOK;cU BAR;cUPSILON;cV b HOOK",
    "cTURNED V;dW;dY;aa d c Y;ad a Z b RETROFLEX HOOK;eCURL;cEZH;db CURL;aa GLOTTAL STOP",
    "bPHARYNGEAL VOICED FRICATIVE;bINVERTED GLOTTAL STOP;bSTRETCHED C;bBILABIAL CLICK;bd c B",
    "ad a CLOSED OPEN E;aa d c G b HOOK;dH;ad a J b CROSSED-TAIL;cTURNED K;aa d c L;ad a Q b HOOK",
    "aa GLOTTAL STOP b v;bREVERSED GLOTTAL STOP b v;ad a DZ DIGRAPH;cDEZH DIGRAPH",
    "cDZ DIGRAPH b CURL;cTS DIGRAPH;cTESH DIGRAPH;cTC DIGRAPH b CURL;cFENG DIGRAPH;cLS DIGRAPH",
    "cLZ DIGRAPH;aa BILABIAL PERCUSSIVE;bBIDENTAL PERCUSSIVE;ad a TURNED H b FISHHOOK;gp TAIL",
    "MODIFIER a d H;db HOOK;cJ;cR;cTURNED R;eb HOOK;cc INVERTED R;cW;cY;bPRIME;bl PRIME",
    "bTURNED COMMA;bAPOSTROPHE;bREVERSED COMMA;bh HALF RING;bo HALF RING;bGLOTTAL STOP",
    "bREVERSED GLOTTAL STOP;bo ARROWHEAD;bh ARROWHEAD;bUP ARROWHEAD;bDOWN ARROWHEAD",
    "bCIRCUMFLEX ACCENT;CARON;MODIFIER a q LINE;bMACRON;bACUTE ACCENT;bGRAVE ACCENT;bLOW q LINE",
    "cMACRON;cGRAVE ACCENT;cACUTE ACCENT;bTRIANGULAR COLON;bHALF TRIANGULAR COLON",
    "bCENTRED h HALF RING;co HALF RING;bUP TACK;bDOWN TACK;bPLUS g;bMINUS g;BREVE;DOT i;RING i",
    "OGONEK;SMALL TILDE;DOUBLE ACUTE ACCENT;MODIFIER a RHOTIC HOOK;bCROSS ACCENT;bd GAMMA;cL;cS;cX",
    "cREVERSED GLOTTAL STOP;bEXTRA-HIGH TONE BAR;bHIGH TONE BAR;bMID TONE BAR;bLOW TONE BAR",
    "bEXTRA-LOW TONE BAR;bYIN DEPARTING TONE MARK;bYANG DEPARTING TONE MARK;bVOICING;bUNASPIRATED",
    "bl APOSTROPHE;bLOW DOWN ARROWHEAD;cUP ARROWHEAD;co ARROWHEAD;ch ARROWHEAD;cRING",
    "bMIDDLE GRAVE ACCENT;cl GRAVE ACCENT;dACUTE ACCENT;bLOW TILDE;bRAISED COLON;bBEGIN HIGH TONE",
    "bEND HIGH TONE;bBEGIN LOW TONE;bEND LOW TONE;bSHELF;bOPEN SHELF;bLOW o f",
    "COMBINING GRAVE ACCENT;aACUTE ACCENT;aCIRCUMFLEX ACCENT;aTILDE;aMACRON;aOVERLINE;aBREVE",
    "aDOT i;aDIAERESIS;aHOOK i;aRING i;al ACUTE ACCENT;aCARON;aq LINE i;al q LINE i;bGRAVE ACCENT",
    "aCANDRABINDU;aINVERTED BREVE;aTURNED COMMA i;aCOMMA i;aREVERSED COMMA i;aCOMMA i h",
    "aGRAVE ACCENT m;aACUTE ACCENT m;ao TACK m;ah TACK m;ao ANGLE i;aHORN;ao HALF RING m",
    "aUP TACK m;aDOWN TACK m;aPLUS g m;aMINUS g m;aPALATALIZED HOOK m;aRETROFLEX HOOK m;aDOT m",
    "aDIAERESIS m;aRING m;aCOMMA m;aCEDILLA;aOGONEK;aq LINE m;aBRIDGE m;aINVERTED l ARCH m",
    "aCARON m;aCIRCUMFLEX ACCENT m;aBREVE m;aINVERTED BREVE m;aTILDE m;aMACRON m;aLOW LINE",
    "al LOW LINE;aTILDE OVERLAY;aSHORT v OVERLAY;aLONG v OVERLAY;aSHORT SOLIDUS OVERLAY",
    "aLONG SOLIDUS OVERLAY;ah HALF RING m;aINVERTED BRIDGE m;aSQUARE m;aSEAGULL m;aX i;aq TILDE",
    "al OVERLINE;aGRAVE TONE MARK;aACUTE TONE MARK;aGREEK PERISPOMENI;bKORONIS;bDIALYTIKA TONOS",
    "bYPOGEGRAMMENI;aBRIDGE i;aEQUALS g m;al q LINE m;ao ANGLE m;aNOT TILDE i;aHOMOTHETIC i",
    "aALMOST EQUAL TO i;ao h f m;aUPWARDS f m;aGRAPHEME JOINER;ah ARROWHEAD i;ao HALF RING i",
    "aFERMATA;aX m;ao ARROWHEAD m;ah ARROWHEAD m;cp UP ARROWHEAD m;bHALF RING i;aDOT i h",
    "aASTERISK m;al RING m;aZIGZAG i;al BREVE m;bBREVE;bMACRON;cm;bTILDE;bINVERTED BREVE;bk f m",
    "aLATIN d a A;dE;dI;dO;dU;dC;dD;dH;dM;dR;dT;dV;dX;GREEK c a HETA;ad a HETA;ac a ARCHAIC SAMPI",
    "ad a ARCHAIC SAMPI;aNUMERAL g;aLOWER NUMERAL g;ac a PAMPHYLIAN DIGAMMA",
    "ad a PAMPHYLIAN DIGAMMA;-2;aYPOGEGRAMMENI;ad REVERSED LUNATE SIGMA w;bDOTTED LUNATE SIGMA w",
    "bREVERSED DOTTED LUNATE SIGMA w;aQUESTION MARK;ac a YOT;-4;aTONOS;aDIALYTIKA TONOS",
    "ac a ALPHA b TONOS;aANO TELEIA;ac a EPSILON b TONOS;cETA b TONOS;cIOTA b TONOS;-1",
    "cOMICRON b TONOS;-1;cUPSILON b TONOS;cOMEGA b TONOS;ad a IOTA b DIALYTIKA p TONOS;ac a ALPHA",
    "cBETA;cGAMMA;cDELTA;cEPSILON;cZETA;cETA;cTHETA;cIOTA;cKAPPA;cLAMDA;cMU;cNU;cXI;cOMICRON;cPI",
    "cRHO;-1;cSIGMA;cTAU;cUPSILON;cPHI;cCHI;cPSI;cOMEGA;cIOTA b DIALYTIKA;cUPSILON b DIALYTIKA",
    "ad a ALPHA b TONOS;cEPSILON b TONOS;cETA b TONOS;cIOTA b TONOS;cUPSILON b DIALYTIKA p TONOS",
    "cALPHA;cBETA;cGAMMA;cDELTA;cEPSILON;cZETA;cETA;cTHETA;cIOTA;cKAPPA;cLAMDA;cMU;cNU;cXI",
    "cOMICRON;cPI;cRHO;cn SIGMA;cSIGMA;cTAU;cUPSILON;cPHI;cCHI;cPSI;cOMEGA;cIOTA b DIALYTIKA",
    "cUPSILON b DIALYTIKA;cOMICRON b TONOS;cUPSILON b TONOS;cOMEGA b TONOS;ac KAI w;aBETA w",
    "aTHETA w;aUPSILON b HOOK w;cACUTE p HOOK w;cDIAERESIS p HOOK w;aPHI w;aPI w;aKAI w",
    "aa ARCHAIC KOPPA;ad a ARCHAIC KOPPA;aa STIGMA;ad a STIGMA;aa DIGAMMA;ad a DIGAMMA;aa KOPPA",
    "ad a KOPPA;aa SAMPI;ad a SAMPI;COPTIC c a SHEI;ad a SHEI;ac a FEI;ad a FEI;ac a KHEI",
    "ad a KHEI;ac a HORI;ad a HORI;ac a GANGIA;ad a GANGIA;ac a SHIMA;ad a SHIMA;ac a DEI;ad a DEI",
    "GREEK KAPPA w;aRHO w;aLUNATE SIGMA w;aa YOT;ac THETA w;aLUNATE EPSILON w",
    "aREVERSED LUNATE EPSILON w;ac a SHO;ad a SHO;ac LUNATE SIGMA w;ba SAN;ad a SAN;aRHO b v w",
    "ac REVERSED LUNATE SIGMA w;bDOTTED LUNATE SIGMA w;bREVERSED DOTTED LUNATE SIGMA w",
    "CYRILLIC c a IE b GRAVE;cIO;cDJE;cGJE;cUKRAINIAN IE;cDZE;cBYELORUSSIAN-UKRAINIAN I;cYI;cJE",
    "cLJE;cNJE;cTSHE;cKJE;cI b GRAVE;cSHORT U;cDZHE;cA;cBE;cVE;cGHE;cDE;cIE;cZHE;cZE;cI;cSHORT I",
    "cKA;cEL;cEM;cEN;cO;cPE;cER;cES;cTE;cU;cEF;cHA;cTSE;cCHE;cSHA;cSHCHA;cHARD g;cYERU;cSOFT g;cE",
    "cYU;cYA;ad a A;cBE;cVE;cGHE;cDE;cIE;cZHE;cZE;cI;cSHORT I;cKA;cEL;cEM;cEN;cO;cPE;cER;cES;cTE",
    "cU;cEF;cHA;cTSE;cCHE;cSHA;cSHCHA;cHARD g;cYERU;cSOFT g;cE;cYU;cYA;cIE b GRAVE;cIO;cDJE;cGJE",
    "cUKRAINIAN IE;cDZE;cBYELORUSSIAN-UKRAINIAN I;cYI;cJE;cLJE;cNJE;cTSHE;cKJE;cI b GRAVE;cSHORT U",
    "cDZHE;ac a OMEGA;ad a OMEGA;ac a YAT;ad a YAT;ac a IOTIFIED E;ad a IOTIFIED E;ac a LITTLE YUS",
    "ad a LITTLE YUS;ac a IOTIFIED LITTLE YUS;ad a IOTIFIED LITTLE YUS;ac a BIG YUS;ad a BIG YUS",
    "ac a IOTIFIED BIG YUS;ad a IOTIFIED BIG YUS;ac a KSI;ad a KSI;ac a PSI;ad a PSI;ac a FITA",
    "ad a FITA;ac a IZHITSA;ad a IZHITSA;ac a IZHITSA b l GRAVE ACCENT",
    "ad a IZHITSA b l GRAVE ACCENT;ac a UK;ad a UK;ac a ROUND OMEGA;ad a ROUND OMEGA",
    "ac a OMEGA b TITLO;ad a OMEGA b TITLO;ac a OT;ad a OT;ac a KOPPA;ad a KOPPA;aTHOUSANDS g",
    "COMBINING CYRILLIC TITLO;bPALATALIZATION;bDASIA PNEUMATA;bPSILI PNEUMATA;bPOKRYTIE",
    "bHUNDRED THOUSANDS g;bMILLIONS g;CYRILLIC c a SHORT I b TAIL;ad a SHORT I b TAIL",
    "ac a SEMISOFT g;ad a SEMISOFT g;ac a ER b TICK;ad a ER b TICK;ac a GHE b UPTURN",
    "ad a GHE b UPTURN;ac a GHE b v;ad a GHE b v;ac a GHE b MIDDLE HOOK;ad a GHE b MIDDLE HOOK",
    "ac a ZHE b DESCENDER;ad a ZHE b DESCENDER;ac a ZE b DESCENDER;ad a ZE b DESCENDER",
    "ac a KA b DESCENDER;ad a KA b DESCENDER;ac a KA b q v;ad a KA b q v;ac a KA b v;ad a KA b v",
    "ac a BASHKIR KA;ad a BASHKIR KA;ac a EN b DESCENDER;ad a EN b DESCENDER;ac LIGATURE EN GHE",
    "ad LIGATURE EN GHE;ac a PE b MIDDLE HOOK;ad a PE b MIDDLE HOOK;ac a ABKHASIAN HA",
    "ad a ABKHASIAN HA;ac a ES b DESCENDER;ad a ES b DESCENDER;ac a TE b DESCENDER",
    "ad a TE b DESCENDER;ac a STRAIGHT U;ad a STRAIGHT U;ac a STRAIGHT U b v;ad a STRAIGHT U b v",
    "ac a HA b DESCENDER;ad a HA b DESCENDER;ac LIGATURE TE TSE;ad LIGATURE TE TSE",
    "ac a CHE b DESCENDER;ad a CHE b DESCENDER;ac a CHE b q v;ad a CHE b q v;ac a SHHA;ad a SHHA",
    "ac a ABKHASIAN CHE;ad a ABKHASIAN CHE;ac a ABKHASIAN CHE b DESCENDER",
    "ad a ABKHASIAN CHE b DESCENDER;aa PALOCHKA;ac a ZHE b BREVE;ad a ZHE b BREVE;ac a KA b HOOK",
    "ad a KA b HOOK;ac a EL b TAIL;ad a EL b TAIL;ac a EN b HOOK;ad a EN b HOOK;ac a EN b TAIL",
    "ad a EN b TAIL;ac a KHAKASSIAN CHE;ad a KHAKASSIAN CHE;ac a EM b TAIL;ad a EM b TAIL",
    "cPALOCHKA;ac a A b BREVE;ad a A b BREVE;ac a A b DIAERESIS;ad a A b DIAERESIS",
    "ac LIGATURE A IE;ad LIGATURE A IE;ac a IE b BREVE;ad a IE b BREVE;ac a SCHWA;ad a SCHWA",
    "ac a SCHWA b DIAERESIS;ad a SCHWA b DIAERESIS;ac a ZHE b DIAERESIS;ad a ZHE b DIAERESIS",
    "ac a ZE b DIAERESIS;ad a ZE b DIAERESIS;ac a ABKHASIAN DZE;ad a ABKHASIAN DZE;ac a I b MACRON",
    "ad a I b MACRON;ac a I b DIAERESIS;ad a I b DIAERESIS;ac a O b DIAERESIS;ad a O b DIAERESIS",
    "ac a BARRED O;ad a BARRED O;ac a BARRED O b DIAERESIS;ad a BARRED O b DIAERESIS",
    "ac a E b DIAERESIS;ad a E b DIAERESIS;ac a U b MACRON;ad a U b MACRON;ac a U b DIAERESIS",
    "ad a U b DIAERESIS;ac a U b l ACUTE;ad a U b l ACUTE;ac a CHE b DIAERESIS",
    "ad a CHE b DIAERESIS;ac a GHE b DESCENDER;ad a GHE b DESCENDER;ac a YERU b DIAERESIS",
    "ad a YERU b DIAERESIS;ac a GHE b v p HOOK;ad a GHE b v p HOOK;ac a HA b HOOK;ad a HA b HOOK",
    "ac a HA b v;ad a HA b v;ac a KOMI DE;ad a KOMI DE;ac a KOMI DJE;ad a KOMI DJE;ac a KOMI ZJE",
    "ad a KOMI ZJE;ac a KOMI DZJE;ad a KOMI DZJE;ac a KOMI LJE;ad a KOMI LJE;ac a KOMI NJE",
    "ad a KOMI NJE;ac a KOMI SJE;ad a KOMI SJE;ac a KOMI TJE;ad a KOMI TJE;ac a REVERSED ZE",
    "ad a REVERSED ZE;ac a EL b HOOK;ad a EL b HOOK;ac a LHA;ad a LHA;ac a RHA;ad a RHA;ac a YAE",
    "ad a YAE;ac a QA;ad a QA;ac a WE;ad a WE;ac a ALEUT KA;ad a ALEUT KA;ac a EL b MIDDLE HOOK",
    "ad a EL b MIDDLE HOOK;ac a EN b MIDDLE HOOK;ad a EN b MIDDLE HOOK;ac a PE b DESCENDER",
    "ad a PE b DESCENDER;ac a SHHA b DESCENDER;ad a SHHA b DESCENDER;ac a EN b o HOOK",
    "ad a EN b o HOOK;ac a DZZHE;ad a DZZHE;ac a DCHE;ad a DCHE;ac a EL b DESCENDER",
    "ad a EL b DESCENDER;-1;ARMENIAN c a AYB;cBEN;cGIM;cDA;cECH;cZA;cEH;cET;cTO;cZHE;cINI;cLIWN",
    "cXEH;cCA;cKEN;cHO;cJA;cGHAD;cCHEH;cMEN;cYI;cNOW;cSHA;cVO;cCHA;cPEH;cJHEH;cRA;cSEH;cVEW;cTIWN",
    "cREH;cCO;cYIWN;cPIWR;cKEH;cOH;cFEH;-2;aMODIFIER a o HALF RING;aAPOSTROPHE;aEMPHASIS MARK",
    "aEXCLAMATION MARK;aCOMMA;aQUESTION MARK;aABBREVIATION MARK;ad a TURNED AYB;cAYB;cBEN;cGIM;cDA",
    "cECH;cZA;cEH;cET;cTO;cZHE;cINI;cLIWN;cXEH;cCA;cKEN;cHO;cJA;cGHAD;cCHEH;cMEN;cYI;cNOW;cSHA;cVO",
    "cCHA;cPEH;cJHEH;cRA;cSEH;cVEW;cTIWN;cREH;cCO;cYIWN;cPIWR;cKEH;cOH;cFEH;bLIGATURE ECH YIWN",
    "ba YI b v;aFULL STOP;aHYPHEN;-2;RIGHT-FACING ARMENIAN ETERNITY g",
    "LEFT-FACING ARMENIAN ETERNITY g;ARMENIAN DRAM g;-1;HEBREW ACCENT ETNAHTA;bSEGOL;bSHALSHELET",
    "bZAQEF QATAN;cGADOL;bTIPEHA;bREVIA;bZARQA;bPASHTA;bYETIV;bTEVIR;bGERESH;cMUQDAM;bGERSHAYIM",
    "bQARNEY PARA;bTELISHA GEDOLA;bPAZER;bATNAH HAFUKH;bMUNAH;bMAHAPAKH;bMERKHA;cKEFULA;bDARGA",
    "bQADMA;bTELISHA QETANA;bYERAH BEN YOMO;bOLE;bILUY;bDEHI;bZINOR;aMARK MASORA CIRCLE",
    "aPOINT SHEVA;bHATAF SEGOL;cPATAH;cQAMATS;bHIRIQ;bTSERE;bSEGOL;bPATAH;bQAMATS;bHOLAM",
    "cHASER FOR VAV;bQUBUTS;bDAGESH OR MAPIQ;bMETEG;aPUNCTUATION MAQAF;aPOINT RAFE",
    "aPUNCTUATION PASEQ;aPOINT SHIN DOT;bSIN DOT;aPUNCTUATION SOF PASUQ;aMARK UPPER DOT;bLOWER DOT",
    "aPUNCTUATION NUN HAFUKHA;aPOINT QAMATS QATAN;-8;aa ALEF;bBET;bGIMEL;bDALET;bHE;bVAV;bZAYIN",
    "bHET;bTET;bYOD;bn KAF;bKAF;bLAMED;bn MEM;bMEM;bn NUN;bNUN;bSAMEKH;bAYIN;bn PE;bPE;bn TSADI",
    "bTSADI;bQOF;bRESH;bSHIN;bTAV;-4;aYOD TRIANGLE;aLIGATURE YIDDISH l VAV;cVAV YOD;cl YOD",
    "aPUNCTUATION GERESH;bGERSHAYIM;-11;ARABIC NUMBER g;ag SANAH;aFOOTNOTE MARKER;ag SAFHA;bSAMVAT",
    "aNUMBER MARK i;ARABIC-INDIC CUBE ROOT;aFOURTH ROOT;ARABIC RAY;ARABIC-INDIC PER MILLE g",
    "bTEN THOUSAND g;AFGHANI g;ARABIC COMMA;aDATE SEPARATOR;aPOETIC VERSE g;ag MISRA",
    "bSALLALLAHOU ALAYHE WASSALLAM;bALAYHE ASSALLAM;bRAHMATULLAH ALAYHE;bRADI ALLAHOU ANHU",
    "bTAKHALLUS;ad HIGH TAH;cLIGATURE ALEF b LAM b YEH;cZAIN;bFATHA;bDAMMA;bKASRA;aSEMICOLON",
    "aa MARK;aEND OF TEXT MARK;aTRIPLE DOT PUNCTUATION MARK;aQUESTION MARK;aa KASHMIRI YEH;bHAMZA",
    "bALEF b MADDA i;dHAMZA i;bWAW b HAMZA i;bALEF b HAMZA m;bYEH b HAMZA i;bALEF;bBEH",
    "bTEH MARBUTA;bTEH;bTHEH;bJEEM;bHAH;bKHAH;bDAL;bTHAL;bREH;bZAIN;bSEEN;bSHEEN;bSAD;bDAD;bTAH",
    "bZAH;bAIN;bGHAIN;bKEHEH b TWO DOTS i;dt DOTS m;bFARSI YEH b INVERTED V;eTWO DOTS i;et DOTS i",
    "aTATWEEL;aa FEH;bQAF;bKAF;bLAM;bMEEM;bNOON;bHEH;bWAW;bALEF MAKSURA;bYEH;aFATHATAN;aDAMMATAN",
    "aKASRATAN;aFATHA;aDAMMA;aKASRA;aSHADDA;aSUKUN;aMADDAH i;aHAMZA i;bm;aSUBSCRIPT ALEF",
    "aINVERTED DAMMA;aMARK NOON GHUNNA;aZWARAKAY;aVOWEL g d V i;cINVERTED d V i;cDOT m",
    "aREVERSED DAMMA;aFATHA b TWO DOTS;aWAVY HAMZA m;ARABIC-INDIC DIGIT ZERO;bONE;bTWO;bt;bFOUR",
    "bFIVE;bSIX;bSEVEN;bEIGHT;bNINE;ARABIC PERCENT g;aDECIMAL SEPARATOR;aTHOUSANDS SEPARATOR",
    "aFIVE POINTED STAR;aa DOTLESS BEH;cQAF;bSUPERSCRIPT ALEF;bALEF WASLA;cb WAVY HAMZA i;fm",
    "bHIGH HAMZA;dALEF;dWAW;bU b HAMZA i;bHIGH HAMZA YEH;bTTEH;bTTEHEH;bBEEH;bTEH b RING",
    "dt DOTS i DOWNWARDS;bPEH;bTEHEH;bBEHEH;bHAH b HAMZA i;dTWO DOTS q i;bNYEH;bDYEH",
    "bHAH b t DOTS i;bTCHEH;bTCHEHEH;bDDAL;bDAL b RING;dDOT m;fp d TAH;bDAHAL;bDDAHAL;bDUL",
    "bDAL b t DOTS i DOWNWARDS;dFOUR DOTS i;bRREH;bREH b d V;dRING;dDOT m;dd V m;dDOT m p DOT i",
    "dTWO DOTS i;bJEH;bREH b FOUR DOTS i;bSEEN b DOT m p DOT i;dt DOTS m;gp t DOTS i",
    "bSAD b TWO DOTS m;dt DOTS i;bTAH b t DOTS i;bAIN b t DOTS i;bDOTLESS FEH;bFEH b DOT MOVED m",
    "em;bVEH;bFEH b t DOTS m;bPEHEH;bQAF b DOT i;dt DOTS i;bKEHEH;bSWASH KAF;bKAF b RING;dDOT i",
    "bNG;bKAF b t DOTS m;bGAF;cb RING;bNGOEH;bGAF b TWO DOTS m;bGUEH;bGAF b t DOTS i;bLAM b d V",
    "dDOT i;dt DOTS i;fm;bNOON b DOT m;cGHUNNA;bRNOON;bNOON b RING;dt DOTS i;bHEH DOACHASHMEE",
    "bTCHEH b DOT i;bHEH b YEH i;cGOAL;db HAMZA i;bTEH MARBUTA GOAL;bWAW b RING;bKIRGHIZ OE;bOE;bU",
    "bYU;bKIRGHIZ YU;bWAW b TWO DOTS i;bVE;bFARSI YEH;bYEH b TAIL;dd V;bWAW b DOT i;bE",
    "bYEH b t DOTS m;cBARREE;db HAMZA i;aFULL STOP;aa AE;ad HIGH LIGATURE SAD b LAM b ALEF MAKSURA",
    "dQAF b LAM b ALEF MAKSURA;cMEEM s e;cLAM ALEF;cJEEM;ct DOTS;cSEEN;aEND OF AYAH",
    "aSTART OF RUB EL HIZB;ad HIGH ROUNDED ZERO;cUPRIGHT RECTANGULAR ZERO;cDOTLESS HEAD OF KHAH",
    "cMEEM j e;bLOW SEEN;bHIGH MADDA;bWAW;bYEH;bHIGH YEH;cNOON;aPLACE OF SAJDAH",
    "aEMPTY CENTRE LOW STOP;cHIGH STOP;aROUNDED HIGH STOP b FILLED CENTRE;ad LOW MEEM",
    "aa DAL b INVERTED V;bREH b INVERTED V;EXTENDED ARABIC-INDIC DIGIT ZERO;cONE;cTWO;ct;cFOUR",
    "cFIVE;cSIX;cSEVEN;cEIGHT;cNINE;ARABIC a SHEEN b DOT m;bDAD b DOT m;bGHAIN b DOT m",
    "ag SINDHI AMPERSAND;cPOSTPOSITION MEN;aa HEH b INVERTED V;SYRIAC END OF PARAGRAPH",
    "aSUPRALINEAR FULL STOP;aSUBLINEAR FULL STOP;aSUPRALINEAR COLON;aSUBLINEAR COLON;ay COLON",
    "aCOLON SKEWED o;ch;aSUPRALINEAR COLON SKEWED o;aSUBLINEAR COLON SKEWED h;aCONTRACTION",
    "aHARKLEAN OBELUS;bMETOBELUS;bASTERISCUS;-1;aABBREVIATION MARK;aa ALAPH;bSUPERSCRIPT ALAPH",
    "bBETH;bGAMAL;cGARSHUNI;bDALATH;bDOTLESS DALATH RISH;bHE;bWAW;bZAIN;bHETH;bTETH;cGARSHUNI",
    "bYUDH;cHE;bKAPH;bLAMADH;bMIM;bNUN;bSEMKATH;bn SEMKATH;bE;bPE;bREVERSED PE;bSADHE;bQAPH;bRISH",
    "bSHIN;bTAW;bPERSIAN BHETH;cGHAMAL;cDHALATH;aPTHAHA i;bm;bDOTTED;aZQAPHA i;bm;bDOTTED;aRBASA i",
    "bm;aDOTTED ZLAMA y;cANGULAR;aHBASA i;bm;aHBASA-ESASA DOTTED;aESASA i;bm;aRWAHA;aFEMININE DOT",
    "aQUSHSHAYA;aRUKKAKHA;aTWO q DOTS i;dm;at DOTS i;cm;aOBLIQUE LINE i;cm;aMUSIC;aBARREKH;-2",
    "aa SOGDIAN ZHAIN;cKHAPH;cFE;ARABIC a BEH b t DOTS HORIZONTALLY m;dDOT m p t DOTS i",
    "dt DOTS POINTING UPWARDS m;ip TWO DOTS i;dTWO DOTS m p DOT i;dINVERTED d V m;dd V",
    "bHAH b TWO DOTS i;dt DOTS POINTING UPWARDS m;bDAL b TWO DOTS VERTICALLY m p d TAH",
    "dINVERTED d V m;bREH b v;bSEEN b FOUR DOTS i;bAIN b TWO DOTS i;dt DOTS POINTING DOWNWARDS i",
    "dTWO DOTS VERTICALLY i;bFEH b TWO DOTS m;dt DOTS POINTING UPWARDS m;bKEHEH b DOT i;dt DOTS i",
    "fPOINTING UPWARDS m;bMEEM b DOT i;em;bNOON b TWO DOTS m;dd TAH;eV;bLAM b BAR",
    "bREH b TWO DOTS VERTICALLY i;dHAMZA i;bSEEN b TWO DOTS VERTICALLY i;bHAH b d ARABIC a TAH m",
    "hp TWO DOTS;bSEEN b d ARABIC a TAH p TWO DOTS;bREH b d ARABIC a TAH p TWO DOTS",
    "bHAH b d ARABIC a TAH i;bALEF b EXTENDED ARABIC-INDIC DIGIT TWO i;gt i",
    "bFARSI YEH b EXTENDED ARABIC-INDIC DIGIT TWO i;ht i;hFOUR m",
    "bWAW b EXTENDED ARABIC-INDIC DIGIT TWO i;gt i;bYEH BARREE b EXTENDED ARABIC-INDIC DIGIT TWO i",
    "ht i;bHAH b EXTENDED ARABIC-INDIC DIGIT FOUR m;bSEEN b EXTENDED ARABIC-INDIC DIGIT FOUR i",
    "dINVERTED V;bKAF b TWO DOTS i;THAANA a HAA;bSHAVIYANI;bNOONU;bRAA;bBAA;bLHAVIYANI;bKAAFU",
    "bALIFU;bVAAVU;bMEEMU;bFAAFU;bDHAALU;bTHAA;bLAAMU;bGAAFU;bGNAVIYANI;bSEENU;bDAVIYANI;bZAVIYANI",
    "bTAVIYANI;bYAA;bPAVIYANI;bJAVIYANI;bCHAVIYANI;bTTAA;bHHAA;bKHAA;bTHAALU;bZAA;bSHEENU;bSAADHU",
    "bDAADHU;bTO;bZO;bAINU;bGHAINU;bQAAFU;bWAAVU;aABAFILI;aAABAAFILI;aIBIFILI;aEEBEEFILI;aUBUFILI",
    "aOOBOOFILI;aEBEFILI;aEYBEYFILI;aOBOFILI;aOABOAFILI;aSUKUN;aa NAA;-14;NKO DIGIT ZERO;bONE;bTWO",
    "bt;bFOUR;bFIVE;bSIX;bSEVEN;bEIGHT;bNINE;aa A;bEE;bI;bE;bU;bOO;bO;bDAGBASINNA;bN;bBA;bPA;bTA",
    "bJA;bCHA;bDA;bRA;bRRA;bSA;bGBA;bFA;bKA;bLA;bNA WOLOSO;bMA;bNYA;bNA;bHA;bWA;bYA;bNYA WOLOSO",
    "bJONA JA;cCHA;cRA;aCOMBINING SHORT HIGH TONE;cLOW TONE;cRISING TONE;bLONG DESCENDING TONE",
    "cHIGH TONE;cLOW TONE;cRISING TONE;bNASALIZATION MARK;bl DOT i;aHIGH TONE APOSTROPHE",
    "aLOW TONE APOSTROPHE;aw OO DENNEN;bGBAKURUNEN;aCOMMA;aEXCLAMATION MARK;aLAJANYALAN;-2",
    "aDANTAYALAN;aDOROME g;aTAMAN g;SAMARITAN a ALAF;bBIT;bGAMAN;bDALAT;bIY;bBAA;bZEN;bIT;bTIT",
    "bYUT;bKAAF;bLABAT;bMIM;bNUN;bSINGAAT;bIN;bFI;bTSAADIY;bQUF;bRISH;bSHAN;bTAAF;aMARK IN",
    "bIN-ALAF;bOCCLUSION;bDAGESH;aMODIFIER a EPENTHETIC YUT;aMARK EPENTHETIC YUT;aVOWEL g LONG E",
    "cE;cOVERLONG AA;cLONG AA;cAA;cOVERLONG A;cLONG A;cA;aMODIFIER a SHORT A;aVOWEL g SHORT A",
    "cLONG U;cU;aMODIFIER a I;aVOWEL g LONG I;cI;cO;cSUKUN;aMARK NEQUDAA;-2;aPUNCTUATION NEQUDAA",
    "bAFSAAQ;bANGED;bBAU;bATMAAU;bSHIYYAALAA;aABBREVIATION MARK;aPUNCTUATION MELODIC QITSA;bZIQAA",
    "bQITSA;bZAEF;bTURU;bARKAANU;bSOF MASHFAAT;bANNAAU;-1;MANDAIC a HALQA;bAB;bAG;bAD;bAH;bUSHENNA",
    "bAZ;bIT;bATT;bAKSA;bAK;bAL;bAM;bAN;bAS;bIN;bAP;bASZ;bAQ;bAR;bASH;bAT;bDUSHENNA;bKAD;bAIN",
    "aAFFRICATION MARK;aVOCALIZATION MARK;aGEMINATION MARK;-2;aPUNCTUATION;-1",
    "SYRIAC a MALAYALAM NGA;cJA;cNYA;cTTA;cNNA;cNNNA;cBHA;cRA;cLLA;cLLLA;cSSA;-5",
    "ARABIC a ALEF b ATTACHED FATHA;eTOP h FATHA;dh MIDDLE v;do MIDDLE v;dATTACHED KASRA",
    "eBOTTOM h KASRA;eROUND DOT i;eh ROUND DOT;eo ROUND DOT;eROUND DOT m;dDOT i",
    "dATTACHED TOP h FATHA p DOT i;dh MIDDLE v p DOT i;dATTACHED BOTTOM h KASRA p DOT i",
    "eTOP h FATHA p o RING;dh MIDDLE v p o RING;dATTACHED BOTTOM h KASRA p o RING;eh HAMZA",
    "eo HAMZA;aTATWEEL b OVERSTRUCK HAMZA;dWAW;cTWO DOTS m;aa THIN YEH;aBASELINE ROUND DOT",
    "aRAISED ROUND DOT;aa NOON b INVERTED d V;bHAH b INVERTED d V m;bTAH b DOT m;dt DOTS m",
    "bKEHEH b TWO DOTS VERTICALLY m;aq TAIL;-1;aPOUND MARK i;aPIASTRE MARK i;-6",
    "ad HIGH WORD AL-JUZ;bLOW WORD ISHMAAM;dIMAALA;dTASHEEL;aMADDA WAAJIB",
    "aSUPERSCRIPT ALEF MOKHASSAS;aDOUBLED MADDA;aHALF MADDA OVER MADDA;aa BEH b d V m;dHAMZA i",
    "bJEEM b TWO DOTS i;bTAH b TWO DOTS i;bFEH b DOT m p t DOTS i;bQAF b DOT m;bLAM b l BAR",
    "bMEEM b t DOTS i;bYEH b TWO DOTS m p HAMZA i;hDOT i;bREH b LOOP;bWAW b DOT WITHIN",
    "bROHINGYA YEH;bLOW ALEF;bDAL b t DOTS m;bSAD b t DOTS m;bGAF b INVERTED v;bSTRAIGHT WAW",
    "bZAIN b INVERTED V i;bAIN b t DOTS m;bKAF b DOT m;bQAF b DOT m p NO DOTS i;bBEH b d MEEM i",
    "bPEH b d MEEM i;bTEH b d TEH i;bREH b d NOON i;bYEH b TWO DOTS m p d NOON i;bAFRICAN FEH;cQAF",
    "cNOON;bPEH b d V;bTEH b d V;bTTEH b d V;bTCHEH b d V;bKEHEH b d V;bGHAIN b t DOTS i",
    "bAFRICAN QAF b t DOTS i;bJEEM b t DOTS i;fm;bLAM b d ARABIC a TAH i;bGRAF;ad FARSI YEH",
    "bHIGH FARSI YEH;cYEH BARREE b TWO DOTS m;cWORD SAH;cZAH;aLARGE ROUND DOT i;dm;aSUKUN m",
    "aLARGE CIRCLE m;bROUND DOT INSIDE CIRCLE m;ad LOW WAW;bHIGH WORD AR-RUB;cSAD;cAIN;cQAF",
    "cNOON b KASRA;bLOW NOON b KASRA;bHIGH WORD ATH-THALATHA;dAS-SAJDA;dAN-NISF;dSAKTA;dQIF;dWAQFA",
    "cFOOTNOTE MARKER;cg SAFHA;aDISPUTED END OF AYAH;aTURNED DAMMA m;aCURLY FATHA;bDAMMA;bKASRA",
    "bFATHATAN;bDAMMATAN;bKASRATAN;aTONE ONE DOT i;bTWO DOTS i;bLOOP i;bONE DOT m;bTWO DOTS m",
    "bLOOP m;aOPEN FATHATAN;bDAMMATAN;bKASRATAN;ad HIGH WAW;aFATHA b RING;cDOT i;aKASRA b DOT m",
    "ao ARROWHEAD i;ah ARROWHEAD i;ao ARROWHEAD m;ah ARROWHEAD m;al h ARROWHEAD i;eb DOT",
    "ah ARROWHEAD i b DOT;aDAMMA b DOT;aMARK SIDEWAYS NOON GHUNNA",
    "DEVANAGARI g INVERTED CANDRABINDU;bCANDRABINDU;bANUSVARA;bVISARGA;aa SHORT A;bA;bAA;bI;bII;bU",
    "bUU;bVOCALIC R;cL;bCANDRA E;bSHORT E;bE;bAI;bCANDRA O;bSHORT O;bO;bAU;bKA;bKHA;bGA;bGHA;bNGA",
    "bCA;bCHA;bJA;bJHA;bNYA;bTTA;bTTHA;bDDA;bDDHA;bNNA;bTA;bTHA;bDA;bDHA;bNA;bNNNA;bPA;bPHA;bBA",
    "bBHA;bMA;bYA;bRA;bRRA;bLA;bLLA;bLLLA;bVA;bSHA;bSSA;bSA;bHA;aVOWEL g OE;cOOE;ag NUKTA",
    "bAVAGRAHA;aVOWEL g AA;cI;cII;cU;cUU;cVOCALIC R;dRR;cCANDRA E;cSHORT E;cE;cAI;cCANDRA O",
    "cSHORT O;cO;cAU;ag VIRAMA;aVOWEL g PRISHTHAMATRA E;cAW;aOM;aSTRESS g UDATTA;cANUDATTA",
    "aGRAVE ACCENT;aACUTE ACCENT;aVOWEL g CANDRA LONG E;cUE;cUUE;aa QA;bKHHA;bGHHA;bZA;bDDDHA;bRHA",
    "bFA;bYYA;bVOCALIC RR;cLL;aVOWEL g VOCALIC L;dLL;aDANDA;al DANDA;aDIGIT ZERO;bONE;bTWO;bt",
    "bFOUR;bFIVE;bSIX;bSEVEN;bEIGHT;bNINE;aABBREVIATION g;ag HIGH SPACING DOT;aa CANDRA A;bOE;bOOE",
    "bAW;bUE;bUUE;bMARWARI DDA;bZHA;bHEAVY YA;bGGA;bJJA;bGLOTTAL STOP;bDDDA;bBBA;BENGALI ANJI",
    "ag CANDRABINDU;bANUSVARA;bVISARGA;-1;aa A;bAA;bI;bII;bU;bUU;bVOCALIC R;cL;-2;bE;bAI;-2;bO;bAU",
    "bKA;bKHA;bGA;bGHA;bNGA;bCA;bCHA;bJA;bJHA;bNYA;bTTA;bTTHA;bDDA;bDDHA;bNNA;bTA;bTHA;bDA;bDHA",
    "bNA;-1;bPA;bPHA;bBA;bBHA;bMA;bYA;bRA;-1;bLA;-3;bSHA;bSSA;bSA;bHA;-2;ag NUKTA;bAVAGRAHA",
    "aVOWEL g AA;cI;cII;cU;cUU;cVOCALIC R;dRR;-2;cE;cAI;-2;cO;cAU;ag VIRAMA;aa KHANDA TA;-8",
    "aAU LENGTH MARK;-4;aa RRA;bRHA;-1;bYYA;bVOCALIC RR;cLL;aVOWEL g VOCALIC L;dLL;-2;aDIGIT ZERO",
    "bONE;bTWO;bt;bFOUR;bFIVE;bSIX;bSEVEN;bEIGHT;bNINE;aa RA b MIDDLE DIAGONAL;dLOWER DIAGONAL",
    "aRUPEE MARK;bg;aCURRENCY NUMERATOR ONE;cTWO;ct;cFOUR;cONE LESS THAN THE DENOMINATOR",
    "bDENOMINATOR SIXTEEN;aISSHAR;aGANDA MARK;aa VEDIC ANUSVARA;aABBREVIATION g;aSANDHI MARK;-2",
    "GURMUKHI g ADAK BINDI;bBINDI;bVISARGA;-1;aa A;bAA;bI;bII;bU;bUU;-4;bEE;bAI;-2;bOO;bAU;bKA",
    "bKHA;bGA;bGHA;bNGA;bCA;bCHA;bJA;bJHA;bNYA;bTTA;bTTHA;bDDA;bDDHA;bNNA;bTA;bTHA;bDA;bDHA;bNA;-1",
    "bPA;bPHA;bBA;bBHA;bMA;bYA;bRA;-1;bLA;bLLA;-1;bVA;bSHA;-1;bSA;bHA;-2;ag NUKTA;-1;aVOWEL g AA",
    "cI;cII;cU;cUU;-4;cEE;cAI;-2;cOO;cAU;ag VIRAMA;-3;bUDAAT;-7;aa KHHA;bGHHA;bZA;bRRA;-1;bFA;-7",
    "aDIGIT ZERO;bONE;bTWO;bt;bFOUR;bFIVE;bSIX;bSEVEN;bEIGHT;bNINE;aTIPPI;aADDAK;aIRI;aURA",
    "aEK ONKAR;ag YAKASH;aABBREVIATION g;-10;GUJARATI g CANDRABINDU;bANUSVARA;bVISARGA;-1;aa A;bAA",
    "bI;bII;bU;bUU;bVOCALIC R;cL;aVOWEL CANDRA E;-1;aa E;bAI;aVOWEL CANDRA O;-1;aa O;bAU;bKA;bKHA",
    "bGA;bGHA;bNGA;bCA;bCHA;bJA;bJHA;bNYA;bTTA;bTTHA;bDDA;bDDHA;bNNA;bTA;bTHA;bDA;bDHA;bNA;-1;bPA",
    "bPHA;bBA;bBHA;bMA;bYA;bRA;-1;bLA;bLLA;-1;bVA;bSHA;bSSA;bSA;bHA;-2;ag NUKTA;bAVAGRAHA",
    "aVOWEL g AA;cI;cII;cU;cUU;cVOCALIC R;dRR;cCANDRA E;-1;cE;cAI;cCANDRA O;-1;cO;cAU;ag VIRAMA;-2",
    "aOM;-15;aa VOCALIC RR;cLL;aVOWEL g VOCALIC L;dLL;-2;aDIGIT ZERO;bONE;bTWO;bt;bFOUR;bFIVE;bSIX",
    "bSEVEN;bEIGHT;bNINE;aABBREVIATION g;aRUPEE g;-7;aa ZHA;ag SUKUN;bSHADDA;bMADDAH",
    "bTHREE-DOT NUKTA i;bCIRCLE NUKTA i;bTWO-CIRCLE NUKTA i;-1;ORIYA g CANDRABINDU;bANUSVARA",
    "bVISARGA;-1;aa A;bAA;bI;bII;bU;bUU;bVOCALIC R;cL;-2;bE;bAI;-2;bO;bAU;bKA;bKHA;bGA;bGHA;bNGA",
    "bCA;bCHA;bJA;bJHA;bNYA;bTTA;bTTHA;bDDA;bDDHA;bNNA;bTA;bTHA;bDA;bDHA;bNA;-1;bPA;bPHA;bBA;bBHA",
    "bMA;bYA;bRA;-1;bLA;bLLA;-1;bVA;bSHA;bSSA;bSA;bHA;-2;ag NUKTA;bAVAGRAHA;aVOWEL g AA;cI;cII;cU",
    "cUU;cVOCALIC R;dRR;-2;cE;cAI;-2;cO;cAU;ag VIRAMA;-7;bOVERLINE;aAI LENGTH MARK;aAU LENGTH MARK",
    "-4;aa RRA;bRHA;-1;bYYA;bVOCALIC RR;cLL;aVOWEL g VOCALIC L;dLL;-2;aDIGIT ZERO;bONE;bTWO;bt",
    "bFOUR;bFIVE;bSIX;bSEVEN;bEIGHT;bNINE;aISSHAR;aa WA;aFRACTION ONE QUARTER;cHALF;bt QUARTERS",
    "bONE SIXTEENTH;cEIGHTH;bt SIXTEENTHS;-10;TAMIL g ANUSVARA;bVISARGA;-1;aa A;bAA;bI;bII;bU;bUU",
    "-3;bE;bEE;bAI;-1;bO;bOO;bAU;bKA;-3;bNGA;bCA;-1;bJA;-1;bNYA;bTTA;-3;bNNA;bTA;-3;bNA;bNNNA;bPA",
    "-3;bMA;bYA;bRA;bRRA;bLA;bLLA;bLLLA;bVA;bSHA;bSSA;bSA;bHA;-4;aVOWEL g AA;cI;cII;cU;cUU;-3;cE",
    "cEE;cAI;-1;cO;cOO;cAU;ag VIRAMA;-2;aOM;-6;aAU LENGTH MARK;-14;aDIGIT ZERO;bONE;bTWO;bt;bFOUR",
    "bFIVE;bSIX;bSEVEN;bEIGHT;bNINE;aNUMBER TEN;bONE HUNDRED;cTHOUSAND;aDAY g;aMONTH g;aYEAR g",
    "aDEBIT g;aCREDIT g;aAS i g;aRUPEE g;aNUMBER g;-5;TELUGU g COMBINING CANDRABINDU i",
    "bCANDRABINDU;bANUSVARA;bVISARGA;bCOMBINING ANUSVARA i;aa A;bAA;bI;bII;bU;bUU;bVOCALIC R;cL;-1",
    "bE;bEE;bAI;-1;bO;bOO;bAU;bKA;bKHA;bGA;bGHA;bNGA;bCA;bCHA;bJA;bJHA;bNYA;bTTA;bTTHA;bDDA;bDDHA",
    "bNNA;bTA;bTHA;bDA;bDHA;bNA;-1;bPA;bPHA;bBA;bBHA;bMA;bYA;bRA;bRRA;bLA;bLLA;bLLLA;bVA;bSHA;bSSA",
    "bSA;bHA;-2;ag NUKTA;bAVAGRAHA;aVOWEL g AA;cI;cII;cU;cUU;cVOCALIC R;dRR;-1;cE;cEE;cAI;-1;cO",
    "cOO;cAU;ag VIRAMA;-7;aLENGTH MARK;aAI LENGTH MARK;-1;aa TSA;bDZA;bRRRA;-2;bNAKAARA POLLU;-2",
    "bVOCALIC RR;cLL;aVOWEL g VOCALIC L;dLL;-2;aDIGIT ZERO;bONE;bTWO;bt;bFOUR;bFIVE;bSIX;bSEVEN",
    "bEIGHT;bNINE;-7;ag SIDDHAM;aFRACTION DIGIT ZERO FOR ODD POWERS OF FOUR",
    "cONE FOR ODD POWERS OF FOUR;cTWO FOR ODD POWERS OF FOUR;ct FOR ODD POWERS OF FOUR",
    "cONE FOR EVEN POWERS OF FOUR;cTWO FOR EVEN POWERS OF FOUR;ct FOR EVEN POWERS OF FOUR;ag TUUMU",
    "KANNADA g SPACING CANDRABINDU;bCANDRABINDU;bANUSVARA;bVISARGA;bSIDDHAM;aa A;bAA;bI;bII;bU;bUU",
    "bVOCALIC R;cL;-1;bE;bEE;bAI;-1;bO;bOO;bAU;bKA;bKHA;bGA;bGHA;bNGA;bCA;bCHA;bJA;bJHA;bNYA;bTTA",
    "bTTHA;bDDA;bDDHA;bNNA;bTA;bTHA;bDA;bDHA;bNA;-1;bPA;bPHA;bBA;bBHA;bMA;bYA;bRA;bRRA;bLA;bLLA;-1",
    "bVA;bSHA;bSSA;bSA;bHA;-2;ag NUKTA;bAVAGRAHA;aVOWEL g AA;cI;cII;cU;cUU;cVOCALIC R;dRR;-1;cE",
    "cEE;cAI;-1;cO;cOO;cAU;ag VIRAMA;-7;aLENGTH MARK;aAI LENGTH MARK;-6;aa NAKAARA POLLU;bFA;-1",
    "bVOCALIC RR;cLL;aVOWEL g VOCALIC L;dLL;-2;aDIGIT ZERO;bONE;bTWO;bt;bFOUR;bFIVE;bSIX;bSEVEN",
    "bEIGHT;bNINE;-1;ag JIHVAMULIYA;bUPADHMANIYA;-13;MALAYALAM g COMBINING ANUSVARA i;bCANDRABINDU",
    "bANUSVARA;bVISARGA;aa VEDIC ANUSVARA;bA;bAA;bI;bII;bU;bUU;bVOCALIC R;cL;-1;bE;bEE;bAI;-1;bO",
    "bOO;bAU;bKA;bKHA;bGA;bGHA;bNGA;bCA;bCHA;bJA;bJHA;bNYA;bTTA;bTTHA;bDDA;bDDHA;bNNA;bTA;bTHA;bDA",
    "bDHA;bNA;bNNNA;bPA;bPHA;bBA;bBHA;bMA;bYA;bRA;bRRA;bLA;bLLA;bLLLA;bVA;bSHA;bSSA;bSA;bHA;bTTTA",
    "ag q BAR VIRAMA;bCIRCULAR VIRAMA;bAVAGRAHA;aVOWEL g AA;cI;cII;cU;cUU;cVOCALIC R;dRR;-1;cE;cEE",
    "cAI;-1;cO;cOO;cAU;ag VIRAMA;aa DOT REPH;ag PARA;-4;aa CHILLU M;cY;cLLL;aAU LENGTH MARK",
    "aFRACTION ONE ONE-HUNDRED-AND-SIXTIETH;cFORTIETH;bt EIGHTIETHS;bONE TWENTIETH;cTENTH",
    "bt TWENTIETHS;bONE FIFTH;aa ARCHAIC II;bVOCALIC RR;cLL;aVOWEL g VOCALIC L;dLL;-2;aDIGIT ZERO",
    "bONE;bTWO;bt;bFOUR;bFIVE;bSIX;bSEVEN;bEIGHT;bNINE;aNUMBER TEN;bONE HUNDRED;cTHOUSAND",
    "aFRACTION ONE QUARTER;cHALF;bt QUARTERS;bONE SIXTEENTH;cEIGHTH;bt SIXTEENTHS;aDATE MARK",
    "aa CHILLU NN;cN;cRR;cL;cLL;cK;-1;SINHALA g CANDRABINDU;bANUSVARAYA;bVISARGAYA;-1;aa AYANNA",
    "bAAYANNA;bAEYANNA;bAEEYANNA;bIYANNA;bIIYANNA;bUYANNA;bUUYANNA;bIRUYANNA;bIRUUYANNA;bILUYANNA",
    "bILUUYANNA;bEYANNA;bEEYANNA;bAIYANNA;bOYANNA;bOOYANNA;bAUYANNA;-3;bALPAPRAANA KAYANNA",
    "bMAHAAPRAANA KAYANNA;bALPAPRAANA GAYANNA;bMAHAAPRAANA GAYANNA;bKANTAJA NAASIKYAYA",
    "bSANYAKA GAYANNA;bALPAPRAANA CAYANNA;bMAHAAPRAANA CAYANNA;bALPAPRAANA JAYANNA",
    "bMAHAAPRAANA JAYANNA;bTAALUJA NAASIKYAYA;cSANYOOGA NAAKSIKYAYA;bSANYAKA JAYANNA",
    "bALPAPRAANA TTAYANNA;bMAHAAPRAANA TTAYANNA;bALPAPRAANA DDAYANNA;bMAHAAPRAANA DDAYANNA",
    "bMUURDHAJA NAYANNA;bSANYAKA DDAYANNA;bALPAPRAANA TAYANNA;bMAHAAPRAANA TAYANNA",
    "bALPAPRAANA DAYANNA;bMAHAAPRAANA DAYANNA;bDANTAJA NAYANNA;-1;bSANYAKA DAYANNA",
    "bALPAPRAANA PAYANNA;bMAHAAPRAANA PAYANNA;bALPAPRAANA BAYANNA;bMAHAAPRAANA BAYANNA;bMAYANNA",
    "bAMBA BAYANNA;bYAYANNA;bRAYANNA;-1;bDANTAJA LAYANNA;-2;bVAYANNA;bTAALUJA SAYANNA",
    "bMUURDHAJA SAYANNA;bDANTAJA SAYANNA;bHAYANNA;bMUURDHAJA LAYANNA;bFAYANNA;-3;ag AL-LAKUNA;-4",
    "aVOWEL g AELA-PILLA;cKETTI AEDA-PILLA;cDIGA AEDA-PILLA;cKETTI IS-PILLA;cDIGA IS-PILLA",
    "cKETTI PAA-PILLA;-1;cDIGA PAA-PILLA;-1;cGAETTA-PILLA;cKOMBUVA;cDIGA KOMBUVA;cKOMBU DEKA",
    "cKOMBUVA HAA AELA-PILLA;eDIGA AELA-PILLA;eGAYANUKITTA;cGAYANUKITTA;-6;aLITH DIGIT ZERO;cONE",
    "cTWO;ct;cFOUR;cFIVE;cSIX;cSEVEN;cEIGHT;cNINE;-2;aVOWEL g DIGA GAETTA-PILLA;dGAYANUKITTA",
    "aPUNCTUATION KUNDDALIYA;-12;THAI CHARACTER KO KAI;bKHO KHAI;cKHUAT;cKHWAI;cKHON;cRAKHANG",
    "bNGO NGU;bCHO CHAN;cCHING;cCHANG;bSO SO;bCHO CHOE;bYO YING;bDO CHADA;bTO PATAK;bTHO THAN",
    "cNANGMONTHO;cPHUTHAO;bNO NEN;bDO DEK;bTO TAO;bTHO THUNG;cTHAHAN;cTHONG;bNO NU;bBO BAIMAI",
    "bPO PLA;bPHO PHUNG;bFO FA;bPHO PHAN;bFO FAN;bPHO SAMPHAO;bMO MA;bYO YAK;bRO RUA;bRU;bLO LING",
    "bLU;bWO WAEN;bSO SALA;cRUSI;cSUA;bHO HIP;bLO CHULA;bO ANG;bHO NOKHUK;bPAIYANNOI;bSARA A",
    "bMAI HAN-AKAT;bSARA AA;cAM;cI;cII;cUE;cUEE;cU;cUU;bPHINTHU;-4;aCURRENCY w BAHT",
    "aCHARACTER SARA E;cAE;cO;cAI MAIMUAN;dMAIMALAI;bLAKKHANGYAO;bMAIYAMOK;bMAITAIKHU;bMAI EK;cTHO",
    "cTRI;cCHATTAWA;bTHANTHAKHAT;bNIKHAHIT;bYAMAKKAN;bFONGMAN;aDIGIT ZERO;bONE;bTWO;bt;bFOUR;bFIVE",
    "bSIX;bSEVEN;bEIGHT;bNINE;aCHARACTER ANGKHANKHU;bKHOMUT"]),
   (0xe81, [
    "LAO a KO;bKHO SUNG;-1;cTAM;-1;bPALI GHA;bNGO;bCO;bPALI CHA;bSO TAM;-1;bPALI JHA;bNYO",
    "bPALI NYA;cTTA;cTTHA;cDDA;cDDHA;cNNA;bDO;bTO;bTHO SUNG;cTAM;bPALI DHA;bNO;bBO;bPO;bPHO SUNG",
    "bFO TAM;bPHO TAM;bFO SUNG;bPALI BHA;bMO;bYO;bLO LING;-1;cLOOT;-1;bWO;bSANSKRIT SHA;cSSA",
    "bSO SUNG;bHO SUNG;bPALI LLA;bO;bHO TAM;aELLIPSIS;aVOWEL g A;cMAI KAN;cAA;cAM;cI;cII;cY;cYY;cU",
    "cUU;ag PALI VIRAMA;aVOWEL g MAI KON;aSEMIVOWEL g LO;cNYO;-2;aVOWEL g E;cEI;cO;cAY;cAI;-1",
    "aKO LA;-1;aTONE MAI EK;cTHO;cTI;cCATAWA;aCANCELLATION MARK;aNIGGAHITA;-2;aDIGIT ZERO;bONE",
    "bTWO;bt;bFOUR;bFIVE;bSIX;bSEVEN;bEIGHT;bNINE;-2;aHO NO;bMO;aa KHMU GO;cNYO"]),
   (0xf00, [
    "TIBETAN SYLLABLE OM;aMARK GTER YIG MGO TRUNCATED A;e-UM RNAM BCAD MA;fGTER TSHEG MA",
    "bs YIG MGO MDUN MA;bCLOSING YIG MGO SGAB MA;bCARET YIG MGO PHUR SHAD MA",
    "bYIG MGO TSHEG SHAD MA;bSBRUL SHAD;bBSKUR YIG MGO;bBKA- SHOG YIG MGO;bINTERSYLLABIC TSHEG",
    "bDELIMITER TSHEG BSTAR;bSHAD;bNYIS SHAD;bTSHEG SHAD;bNYIS TSHEG SHAD;bRIN CHEN SPUNGS SHAD",
    "bRGYA GRAM SHAD;bCARET -DZUD RTAGS ME LONG CAN;bGTER TSHEG;aLOGOTYPE g CHAD RTAGS;cLHAG RTAGS",
    "aASTROLOGICAL g SGRA GCAN -CHAR RTAGS;c-KHYUD PA;cSDONG TSHUGS;ag RDEL DKAR GCIG;dGNYIS;dGSUM",
    "cNAG GCIG;dGNYIS;cDKAR RDEL NAG;aDIGIT ZERO;bONE;bTWO;bt;bFOUR;bFIVE;bSIX;bSEVEN;bEIGHT;bNINE",
    "bHALF ONE;cTWO;ct;cFOUR;cFIVE;cSIX;cSEVEN;cEIGHT;cNINE;cZERO;aMARK BSDUS RTAGS",
    "bNGAS BZUNG NYI ZLA;bCARET -DZUD RTAGS BZHI MIG CAN;bNGAS BZUNG SGOR RTAGS;bCHE MGO",
    "bTSA -PHRU;bGUG RTAGS GYON;dGYAS;bANG KHANG GYON;dGYAS;ag YAR TSHES;bMAR TSHES;aa KA;bKHA;bGA",
    "bGHA;bNGA;bCA;bCHA;bJA;-1;bNYA;bTTA;bTTHA;bDDA;bDDHA;bNNA;bTA;bTHA;bDA;bDHA;bNA;bPA;bPHA;bBA",
    "bBHA;bMA;bTSA;bTSHA;bDZA;bDZHA;bWA;bZHA;bZA;b-A;bYA;bRA;bLA;bSHA;bSSA;bSA;bHA;bA;bKSSA",
    "bFIXED-FORM RA;bKKA;bRRA;-4;aVOWEL g AA;cI;cII;cU;cUU;cVOCALIC R;dRR;dL;dLL;cE;cEE;cO;cOO",
    "ag RJES SU NGA RO;bRNAM BCAD;aVOWEL g REVERSED I;dII;ag NYI ZLA NAA DA;bSNA LDAN",
    "aMARK HALANTA;bPALUTA;ag LCI RTAGS;bYANG RTAGS;bLCE TSA CAN;bMCHU CAN;bGRU CAN RGYINGS",
    "cMED RGYINGS;bINVERTED MCHU CAN;aSUBJOINED g LCE TSA CAN;cMCHU CAN;cINVERTED MCHU CAN;ba KA",
    "cKHA;cGA;cGHA;cNGA;cCA;cCHA;cJA;-1;cNYA;cTTA;cTTHA;cDDA;cDDHA;cNNA;cTA;cTHA;cDA;cDHA;cNA;cPA",
    "cPHA;cBA;cBHA;cMA;cTSA;cTSHA;cDZA;cDZHA;cWA;cZHA;cZA;c-A;cYA;cRA;cLA;cSHA;cSSA;cSA;cHA;cA",
    "cKSSA;cFIXED-FORM WA;dYA;dRA;-1;aKU RU KHA;dBZHI MIG CAN;aCANTILLATION g HEAVY BEAT",
    "cLIGHT BEAT;cCANG TE-U;cSBUB -CHAL;aw DRIL BU;bRDO RJE;bPADMA GDAN;bRDO RJE RGYA GRAM",
    "bPHUR PA;bNOR BU;dNYIS -KHYIL;dGSUM -KHYIL;dBZHI -KHYIL;-1;ag RDEL NAG RDEL DKAR;dGSUM",
    "aMARK BSKA- SHOG GI MGO RGYAN;bMNYAM YIG GI MGO RGYAN;bNYIS TSHEG",
    "bs BRDA RNYING YIG MGO MDUN MA;bCLOSING BRDA RNYING YIG MGO SGAB MA;RIGHT-FACING SVASTI g",
    "LEFT-FACING SVASTI g;RIGHT-FACING SVASTI g b DOTS;LEFT-FACING SVASTI g b DOTS",
    "TIBETAN MARK LEADING MCHAN RTAGS;bTRAILING MCHAN RTAGS"]),
   (0x1000, [
    "MYANMAR a KA;bKHA;bGA;bGHA;bNGA;bCA;bCHA;bJA;bJHA;bNYA;bNNYA;bTTA;bTTHA;bDDA;bDDHA;bNNA;bTA",
    "bTHA;bDA;bDHA;bNA;bPA;bPHA;bBA;bBHA;bMA;bYA;bRA;bLA;bWA;bSA;bHA;bLLA;bA;bSHAN A;bI;bII;bU;bUU",
    "bE;bMON E;bO;bAU;aVOWEL g TALL AA;cAA;cI;cII;cU;cUU;cE;cAI;cMON II;dO;cE i;ag ANUSVARA;bDOT m",
    "bVISARGA;bVIRAMA;bASAT;aCONSONANT g MEDIAL YA;dRA;dWA;dHA;aa GREAT SA;aDIGIT ZERO;bONE;bTWO",
    "bt;bFOUR;bFIVE;bSIX;bSEVEN;bEIGHT;bNINE;ag LITTLE SECTION;bSECTION;aw LOCATIVE;bCOMPLETED",
    "bAFOREMENTIONED;bGENITIVE;aa SHA;bSSA;bVOCALIC R;cRR;cL;cLL;aVOWEL g VOCALIC R;dRR;dL;dLL",
    "aa MON NGA;cJHA;cBBA;cBBE;aCONSONANT g MON MEDIAL NA;eMA;eLA;aa SGAW KAREN SHA",
    "aVOWEL g SGAW KAREN EU;aTONE MARK SGAW KAREN HATHI;eKE PHO;aa WESTERN PWO KAREN THA;ePWA",
    "aVOWEL g WESTERN PWO KAREN EU;fUE;ag WESTERN PWO KAREN TONE-1;+4;aa EASTERN PWO KAREN NNA",
    "eYWA;eGHWA;aVOWEL g GEBA KAREN I;cKAYAH OE;dU;dEE;aa SHAN KA;cKHA;cGA;cCA;cZA;cNYA;cDA;cNA",
    "cPHA;cFA;cBA;cTHA;cHA;aCONSONANT g SHAN MEDIAL WA;aVOWEL g SHAN AA;dE;ei;dn Y;ag SHAN TONE-2",
    "cTONE-3;cTONE-5;cTONE-6;cCOUNCIL TONE-2;dTONE-3;dEMPHATIC TONE;aa RUMAI PALAUNG FA",
    "ag RUMAI PALAUNG TONE-5;aSHAN DIGIT ZERO;cONE;cTWO;ct;cFOUR;cFIVE;cSIX;cSEVEN;cEIGHT;cNINE",
    "ag KHAMTI TONE-1;cTONE-3;aVOWEL g AITON A;dAI;aw SHAN ONE;cEXCLAMATION;GEORGIAN c a AN;cBAN",
    "cGAN;cDON;cEN;cVIN;cZEN;cTAN;cIN;cKAN;cLAS;cMAN;cNAR;cON;cPAR;cZHAR;cRAE;cSAN;cTAR;cUN;cPHAR",
    "cKHAR;cGHAN;cQAR;cSHIN;cCHIN;cCAN;cJIL;cCIL;cCHAR;cXAN;cJHAN;cHAE;cHE;cHIE;cWE;cHAR;cHOE;-1",
    "cYN;-5;cAEN;-2;aa AN;bBAN;bGAN;bDON;bEN;bVIN;bZEN;bTAN;bIN;bKAN;bLAS;bMAN;bNAR;bON;bPAR;bZHAR",
    "bRAE;bSAN;bTAR;bUN;bPHAR;bKHAR;bGHAN;bQAR;bSHIN;bCHIN;bCAN;bJIL;bCIL;bCHAR;bXAN;bJHAN;bHAE",
    "bHE;bHIE;bWE;bHAR;bHOE;bFI;bYN;bELIFI;bTURNED GAN;bAIN;aPARAGRAPH SEPARATOR",
    "MODIFIER a GEORGIAN NAR;GEORGIAN a AEN;bHARD g;bLABIAL g;HANGUL CHOSEONG KIYEOK;bSSANGKIYEOK",
    "bNIEUN;bTIKEUT;bSSANGTIKEUT;bRIEUL;bMIEUM;bPIEUP;bSSANGPIEUP;bSIOS;bSSANGSIOS;bIEUNG;bCIEUC",
    "bSSANGCIEUC;bCHIEUCH;bKHIEUKH;bTHIEUTH;bPHIEUPH;bHIEUH;bNIEUN-KIYEOK;bSSANGNIEUN",
    "bNIEUN-TIKEUT;bNIEUN-PIEUP;bTIKEUT-KIYEOK;bRIEUL-NIEUN;bSSANGRIEUL;bRIEUL-HIEUH",
    "bKAPYEOUNRIEUL;bMIEUM-PIEUP;bKAPYEOUNMIEUM;bPIEUP-KIYEOK;bPIEUP-NIEUN;bPIEUP-TIKEUT",
    "bPIEUP-SIOS;bPIEUP-SIOS-KIYEOK;bPIEUP-SIOS-TIKEUT;bPIEUP-SIOS-PIEUP;bPIEUP-SSANGSIOS",
    "bPIEUP-SIOS-CIEUC;bPIEUP-CIEUC;bPIEUP-CHIEUCH;bPIEUP-THIEUTH;bPIEUP-PHIEUPH;bKAPYEOUNPIEUP",
    "bKAPYEOUNSSANGPIEUP;bSIOS-KIYEOK;bSIOS-NIEUN;bSIOS-TIKEUT;bSIOS-RIEUL;bSIOS-MIEUM;bSIOS-PIEUP",
    "bSIOS-PIEUP-KIYEOK;bSIOS-SSANGSIOS;bSIOS-IEUNG;bSIOS-CIEUC;bSIOS-CHIEUCH;bSIOS-KHIEUKH",
    "bSIOS-THIEUTH;bSIOS-PHIEUPH;bSIOS-HIEUH;bCHITUEUMSIOS;bCHITUEUMSSANGSIOS;bCEONGCHIEUMSIOS",
    "bCEONGCHIEUMSSANGSIOS;bPANSIOS;bIEUNG-KIYEOK;bIEUNG-TIKEUT;bIEUNG-MIEUM;bIEUNG-PIEUP",
    "bIEUNG-SIOS;bIEUNG-PANSIOS;bSSANGIEUNG;bIEUNG-CIEUC;bIEUNG-CHIEUCH;bIEUNG-THIEUTH",
    "bIEUNG-PHIEUPH;bYESIEUNG;bCIEUC-IEUNG;bCHITUEUMCIEUC;bCHITUEUMSSANGCIEUC;bCEONGCHIEUMCIEUC",
    "bCEONGCHIEUMSSANGCIEUC;bCHIEUCH-KHIEUKH;bCHIEUCH-HIEUH;bCHITUEUMCHIEUCH;bCEONGCHIEUMCHIEUCH",
    "bPHIEUPH-PIEUP;bKAPYEOUNPHIEUPH;bSSANGHIEUH;bYEORINHIEUH;bKIYEOK-TIKEUT;bNIEUN-SIOS",
    "bNIEUN-CIEUC;bNIEUN-HIEUH;bTIKEUT-RIEUL;bFILLER;aJUNGSEONG FILLER;bA;bAE;bYA;bYAE;bEO;bE;bYEO",
    "bYE;bO;bWA;bWAE;bOE;bYO;bU;bWEO;bWE;bWI;bYU;bEU;bYI;bI;bA-O;bA-U;bYA-O;bYA-YO;bEO-O;bEO-U",
    "bEO-EU;bYEO-O;bYEO-U;bO-EO;bO-E;bO-YE;bO-O;bO-U;bYO-YA;bYO-YAE;bYO-YEO;bYO-O;bYO-I;bU-A;bU-AE",
    "bU-EO-EU;bU-YE;bU-U;bYU-A;bYU-EO;bYU-E;bYU-YEO;bYU-YE;bYU-U;bYU-I;bEU-U;bEU-EU;bYI-U;bI-A",
    "bI-YA;bI-O;bI-U;bI-EU;bI-ARAEA;bARAEA;bARAEA-EO;bARAEA-U;bARAEA-I;bSSANGARAEA;bA-EU;bYA-U",
    "bYEO-YA;bO-YA;bO-YAE;aJONGSEONG KIYEOK;bSSANGKIYEOK;bKIYEOK-SIOS;bNIEUN;bNIEUN-CIEUC",
    "bNIEUN-HIEUH;bTIKEUT;bRIEUL;bRIEUL-KIYEOK;bRIEUL-MIEUM;bRIEUL-PIEUP;bRIEUL-SIOS",
    "bRIEUL-THIEUTH;bRIEUL-PHIEUPH;bRIEUL-HIEUH;bMIEUM;bPIEUP;bPIEUP-SIOS;bSIOS;bSSANGSIOS;bIEUNG",
    "bCIEUC;bCHIEUCH;bKHIEUKH;bTHIEUTH;bPHIEUPH;bHIEUH;bKIYEOK-RIEUL;bKIYEOK-SIOS-KIYEOK",
    "bNIEUN-KIYEOK;bNIEUN-TIKEUT;bNIEUN-SIOS;bNIEUN-PANSIOS;bNIEUN-THIEUTH;bTIKEUT-KIYEOK",
    "bTIKEUT-RIEUL;bRIEUL-KIYEOK-SIOS;bRIEUL-NIEUN;bRIEUL-TIKEUT;bRIEUL-TIKEUT-HIEUH;bSSANGRIEUL",
    "bRIEUL-MIEUM-KIYEOK;bRIEUL-MIEUM-SIOS;bRIEUL-PIEUP-SIOS;bRIEUL-PIEUP-HIEUH",
    "bRIEUL-KAPYEOUNPIEUP;bRIEUL-SSANGSIOS;bRIEUL-PANSIOS;bRIEUL-KHIEUKH;bRIEUL-YEORINHIEUH",
    "bMIEUM-KIYEOK;bMIEUM-RIEUL;bMIEUM-PIEUP;bMIEUM-SIOS;bMIEUM-SSANGSIOS;bMIEUM-PANSIOS",
    "bMIEUM-CHIEUCH;bMIEUM-HIEUH;bKAPYEOUNMIEUM;bPIEUP-RIEUL;bPIEUP-PHIEUPH;bPIEUP-HIEUH",
    "bKAPYEOUNPIEUP;bSIOS-KIYEOK;bSIOS-TIKEUT;bSIOS-RIEUL;bSIOS-PIEUP;bPANSIOS;bIEUNG-KIYEOK",
    "bIEUNG-SSANGKIYEOK;bSSANGIEUNG;bIEUNG-KHIEUKH;bYESIEUNG;bYESIEUNG-SIOS;bYESIEUNG-PANSIOS",
    "bPHIEUPH-PIEUP;bKAPYEOUNPHIEUPH;bHIEUH-NIEUN;bHIEUH-RIEUL;bHIEUH-MIEUM;bHIEUH-PIEUP",
    "bYEORINHIEUH;bKIYEOK-NIEUN;bKIYEOK-PIEUP;bKIYEOK-CHIEUCH;bKIYEOK-KHIEUKH;bKIYEOK-HIEUH",
    "bSSANGNIEUN;ETHIOPIC SYLLABLE HA;bHU;bHI;bHAA;bHEE;bHE;bHO;bHOA;bLA;bLU;bLI;bLAA;bLEE;bLE;bLO",
    "bLWA;bHHA;bHHU;bHHI;bHHAA;bHHEE;bHHE;bHHO;bHHWA;bMA;bMU;bMI;bMAA;bMEE;bME;bMO;bMWA;bSZA;bSZU",
    "bSZI;bSZAA;bSZEE;bSZE;bSZO;bSZWA;bRA;bRU;bRI;bRAA;bREE;bRE;bRO;bRWA;bSA;bSU;bSI;bSAA;bSEE;bSE",
    "bSO;bSWA;bSHA;bSHU;bSHI;bSHAA;bSHEE;bSHE;bSHO;bSHWA;bQA;bQU;bQI;bQAA;bQEE;bQE;bQO;bQOA;bQWA",
    "-1;bQWI;bQWAA;bQWEE;bQWE;-2;bQHA;bQHU;bQHI;bQHAA;bQHEE;bQHE;bQHO;-1;bQHWA;-1;bQHWI;bQHWAA",
    "bQHWEE;bQHWE;-2;bBA;bBU;bBI;bBAA;bBEE;bBE;bBO;bBWA;bVA;bVU;bVI;bVAA;bVEE;bVE;bVO;bVWA;bTA;bTU",
    "bTI;bTAA;bTEE;bTE;bTO;bTWA;bCA;bCU;bCI;bCAA;bCEE;bCE;bCO;bCWA;bXA;bXU;bXI;bXAA;bXEE;bXE;bXO",
    "bXOA;bXWA;-1;bXWI;bXWAA;bXWEE;bXWE;-2;bNA;bNU;bNI;bNAA;bNEE;bNE;bNO;bNWA;bNYA;bNYU;bNYI;bNYAA",
    "bNYEE;bNYE;bNYO;bNYWA;bGLOTTAL A;cU;cI;cAA;cEE;cE;cO;cWA;bKA;bKU;bKI;bKAA;bKEE;bKE;bKO;bKOA",
    "bKWA;-1;bKWI;bKWAA;bKWEE;bKWE;-2;bKXA;bKXU;bKXI;bKXAA;bKXEE;bKXE;bKXO;-1;bKXWA;-1;bKXWI",
    "bKXWAA;bKXWEE;bKXWE;-2;bWA;bWU;bWI;bWAA;bWEE;bWE;bWO;bWOA;bPHARYNGEAL A;cU;cI;cAA;cEE;cE;cO",
    "-1;bZA;bZU;bZI;bZAA;bZEE;bZE;bZO;bZWA;bZHA;bZHU;bZHI;bZHAA;bZHEE;bZHE;bZHO;bZHWA;bYA;bYU;bYI",
    "bYAA;bYEE;bYE;bYO;bYOA;bDA;bDU;bDI;bDAA;bDEE;bDE;bDO;bDWA;bDDA;bDDU;bDDI;bDDAA;bDDEE;bDDE",
    "bDDO;bDDWA;bJA;bJU;bJI;bJAA;bJEE;bJE;bJO;bJWA;bGA;bGU;bGI;bGAA;bGEE;bGE;bGO;bGOA;bGWA;-1;bGWI",
    "bGWAA;bGWEE;bGWE;-2;bGGA;bGGU;bGGI;bGGAA;bGGEE;bGGE;bGGO;bGGWAA;bTHA;bTHU;bTHI;bTHAA;bTHEE",
    "bTHE;bTHO;bTHWA;bCHA;bCHU;bCHI;bCHAA;bCHEE;bCHE;bCHO;bCHWA;bPHA;bPHU;bPHI;bPHAA;bPHEE;bPHE",
    "bPHO;bPHWA;bTSA;bTSU;bTSI;bTSAA;bTSEE;bTSE;bTSO;bTSWA;bTZA;bTZU;bTZI;bTZAA;bTZEE;bTZE;bTZO",
    "bTZOA;bFA;bFU;bFI;bFAA;bFEE;bFE;bFO;bFWA;bPA;bPU;bPI;bPAA;bPEE;bPE;bPO;bPWA;bRYA;bMYA;bFYA;-2",
    "aCOMBINING GEMINATION p VOWEL LENGTH MARK;bVOWEL LENGTH MARK;bGEMINATION MARK;aSECTION MARK",
    "aWORDSPACE;aFULL STOP;aCOMMA;aSEMICOLON;aCOLON;aPREFACE COLON;aQUESTION MARK",
    "aPARAGRAPH SEPARATOR;aDIGIT ONE;bTWO;bt;bFOUR;bFIVE;bSIX;bSEVEN;bEIGHT;bNINE;aNUMBER TEN",
    "bTWENTY;bTHIRTY;bFORTY;bFIFTY;bSIXTY;bSEVENTY;bEIGHTY;bNINETY;bHUNDRED;bTEN THOUSAND;-3",
    "aSYLLABLE SEBATBEIT MWA;bMWI;bMWEE;bMWE;bSEBATBEIT BWA;bBWI;bBWEE;bBWE;bSEBATBEIT FWA;bFWI",
    "bFWEE;bFWE;bSEBATBEIT PWA;bPWI;bPWEE;bPWE;aTONAL MARK YIZET;cDERET;cRIKRIK;cSHORT RIKRIK",
    "cDIFAT;cKENAT;cCHIRET;cHIDET;cDERET-HIDET;cKURT;-6;CHEROKEE a A;bE;bI;bO;bU;bV;bGA;bKA;bGE",
    "bGI;bGO;bGU;bGV;bHA;bHE;bHI;bHO;bHU;bHV;bLA;bLE;bLI;bLO;bLU;bLV;bMA;bME;bMI;bMO;bMU;bNA;bHNA",
    "bNAH;bNE;bNI;bNO;bNU;bNV;bQUA;bQUE;bQUI;bQUO;bQUU;bQUV;bSA;bS;bSE;bSI;bSO;bSU;bSV;bDA;bTA;bDE",
    "bTE;bDI;bTI;bDO;bDU;bDV;bDLA;bTLA;bTLE;bTLI;bTLO;bTLU;bTLV;bTSA;bTSE;bTSI;bTSO;bTSU;bTSV;bWA",
    "bWE;bWI;bWO;bWU;bWV;bYA;bYE;bYI;bYO;bYU;bYV;bMV;-2;ad a YE;cYI;cYO;cYU;cYV;cMV;-2",
    "CANADIAN SYLLABICS HYPHEN;bE;bAAI;bI;bII;bO;bOO;bY-CREE OO;bCARRIER EE;cI;bA;bAA;bWE",
    "bWEST-CREE WE;bWI;bWEST-CREE WI;bWII;bWEST-CREE WII;bWO;bWEST-CREE WO;bWOO;bWEST-CREE WOO",
    "bNASKAPI WOO;bWA;bWEST-CREE WA;bWAA;bWEST-CREE WAA;bNASKAPI WAA;bAI;bY-CREE W;bGLOTTAL STOP",
    "bn ACUTE;cGRAVE;cBOTTOM HALF RING;cTOP HALF RING;ch HALF RING;cRING;cl ACUTE;dSHORT q STROKES",
    "cMIDDLE DOT;cSHORT y v;cPLUS;cDOWN TACK;bEN;bIN;bON;bAN;bPE;bPAAI;bPI;bPII;bPO;bPOO",
    "bY-CREE POO;bCARRIER HEE;cHI;bPA;bPAA;bPWE;bWEST-CREE PWE;bPWI;bWEST-CREE PWI;bPWII",
    "bWEST-CREE PWII;bPWO;bWEST-CREE PWO;bPWOO;bWEST-CREE PWOO;bPWA;bWEST-CREE PWA;bPWAA",
    "bWEST-CREE PWAA;bY-CREE PWAA;bP;bWEST-CREE P;bCARRIER H;bTE;bTAAI;bTI;bTII;bTO;bTOO",
    "bY-CREE TOO;bCARRIER DEE;cDI;bTA;bTAA;bTWE;bWEST-CREE TWE;bTWI;bWEST-CREE TWI;bTWII",
    "bWEST-CREE TWII;bTWO;bWEST-CREE TWO;bTWOO;bWEST-CREE TWOO;bTWA;bWEST-CREE TWA;bTWAA",
    "bWEST-CREE TWAA;bNASKAPI TWAA;bT;bTTE;bTTI;bTTO;bTTA;bKE;bKAAI;bKI;bKII;bKO;bKOO;bY-CREE KOO",
    "bKA;bKAA;bKWE;bWEST-CREE KWE;bKWI;bWEST-CREE KWI;bKWII;bWEST-CREE KWII;bKWO;bWEST-CREE KWO",
    "bKWOO;bWEST-CREE KWOO;bKWA;bWEST-CREE KWA;bKWAA;bWEST-CREE KWAA;bNASKAPI KWAA;bK;bKW",
    "bSOUTH-SLAVEY KEH;cKIH;cKOH;cKAH;bCE;bCAAI;bCI;bCII;bCO;bCOO;bY-CREE COO;bCA;bCAA;bCWE",
    "bWEST-CREE CWE;bCWI;bWEST-CREE CWI;bCWII;bWEST-CREE CWII;bCWO;bWEST-CREE CWO;bCWOO",
    "bWEST-CREE CWOO;bCWA;bWEST-CREE CWA;bCWAA;bWEST-CREE CWAA;bNASKAPI CWAA;bC;bSAYISI TH;bME",
    "bMAAI;bMI;bMII;bMO;bMOO;bY-CREE MOO;bMA;bMAA;bMWE;bWEST-CREE MWE;bMWI;bWEST-CREE MWI;bMWII",
    "bWEST-CREE MWII;bMWO;bWEST-CREE MWO;bMWOO;bWEST-CREE MWOO;bMWA;bWEST-CREE MWA;bMWAA",
    "bWEST-CREE MWAA;bNASKAPI MWAA;bM;bWEST-CREE M;bMH;bATHAPASCAN M;bSAYISI M;bNE;bNAAI;bNI;bNII",
    "bNO;bNOO;bY-CREE NOO;bNA;bNAA;bNWE;bWEST-CREE NWE;bNWA;bWEST-CREE NWA;bNWAA;bWEST-CREE NWAA",
    "bNASKAPI NWAA;bN;bCARRIER NG;bNH;bLE;bLAAI;bLI;bLII;bLO;bLOO;bY-CREE LOO;bLA;bLAA;bLWE",
    "bWEST-CREE LWE;bLWI;bWEST-CREE LWI;bLWII;bWEST-CREE LWII;bLWO;bWEST-CREE LWO;bLWOO",
    "bWEST-CREE LWOO;bLWA;bWEST-CREE LWA;bLWAA;bWEST-CREE LWAA;bL;bWEST-CREE L;bMEDIAL L;bSE;bSAAI",
    "bSI;bSII;bSO;bSOO;bY-CREE SOO;bSA;bSAA;bSWE;bWEST-CREE SWE;bSWI;bWEST-CREE SWI;bSWII",
    "bWEST-CREE SWII;bSWO;bWEST-CREE SWO;bSWOO;bWEST-CREE SWOO;bSWA;bWEST-CREE SWA;bSWAA",
    "bWEST-CREE SWAA;bNASKAPI SWAA;bS;bATHAPASCAN S;bSW;bBLACKFOOT S;bMOOSE-CREE SK;bNASKAPI SKW",
    "cS-W;cSPWA;cSTWA;cSKWA;cSCWA;bSHE;bSHI;bSHII;bSHO;bSHOO;bSHA;bSHAA;bSHWE;bWEST-CREE SHWE",
    "bSHWI;bWEST-CREE SHWI;bSHWII;bWEST-CREE SHWII;bSHWO;bWEST-CREE SHWO;bSHWOO;bWEST-CREE SHWOO",
    "bSHWA;bWEST-CREE SHWA;bSHWAA;bWEST-CREE SHWAA;bSH;bYE;bYAAI;bYI;bYII;bYO;bYOO;bY-CREE YOO;bYA",
    "bYAA;bYWE;bWEST-CREE YWE;bYWI;bWEST-CREE YWI;bYWII;bWEST-CREE YWII;bYWO;bWEST-CREE YWO;bYWOO",
    "bWEST-CREE YWOO;bYWA;bWEST-CREE YWA;bYWAA;bWEST-CREE YWAA;bNASKAPI YWAA;bY;bBIBLE-CREE Y",
    "bWEST-CREE Y;bSAYISI YI;bRE;bR-CREE RE;bWEST-CREE LE;bRAAI;bRI;bRII;bRO;bROO;bWEST-CREE LO",
    "bRA;bRAA;bWEST-CREE LA;bRWAA;bWEST-CREE RWAA;bR;bWEST-CREE R;bMEDIAL R;bFE;bFAAI;bFI;bFII;bFO",
    "bFOO;bFA;bFAA;bFWAA;bWEST-CREE FWAA;bF;bTHE;bN-CREE THE;bTHI;bN-CREE THI;bTHII;bN-CREE THII",
    "bTHO;bTHOO;bTHA;bTHAA;bTHWAA;bWEST-CREE THWAA;bTH;bTTHE;bTTHI;bTTHO;bTTHA;bTTH;bTYE;bTYI;bTYO",
    "bTYA;bNUNAVIK HE;cHI;cHII;cHO;cHOO;cHA;cHAA;cH;bNUNAVUT H;bHK;bQAAI;bQI;bQII;bQO;bQOO;bQA",
    "bQAA;bQ;bTLHE;bTLHI;bTLHO;bTLHA;bWEST-CREE RE;cRI;cRO;cRA;bNGAAI;bNGI;bNGII;bNGO;bNGOO;bNGA",
    "bNGAA;bNG;bNNG;bSAYISI SHE;cSHI;cSHO;cSHA;bWOODS-CREE THE;cTHI;cTHO;cTHA;cTH;bLHI;bLHII;bLHO",
    "bLHOO;bLHA;bLHAA;bLH;bTH-CREE THE;cTHI;cTHII;cTHO;cTHOO;cTHA;cTHAA;cTH;bAIVILIK B",
    "bBLACKFOOT E;cI;cO;cA;cWE;cWI;cWO;cWA;cNE;cNI;cNO;cNA;cKE;cKI;cKO;cKA;bSAYISI HE;cHI;cHO;cHA",
    "bCARRIER GHU;cGHO;cGHE;cGHEE;cGHI;cGHA;cRU;cRO;cRE;cREE;cRI;cRA;cWU;cWO;cWE;cWEE;cWI;cWA;cHWU",
    "cHWO;cHWE;cHWEE;cHWI;cHWA;cTHU;cTHO;cTHE;cTHEE;cTHI;cTHA;cTTU;cTTO;cTTE;cTTEE;cTTI;cTTA;cPU",
    "cPO;cPE;cPEE;cPI;cPA;cP;cGU;cGO;cGE;cGEE;cGI;cGA;cKHU;cKHO;cKHE;cKHEE;cKHI;cKHA;cKKU;cKKO",
    "cKKE;cKKEE;cKKI;cKKA;cKK;cNU;cNO;cNE;cNEE;cNI;cNA;cMU;cMO;cME;cMEE;cMI;cMA;cYU;cYO;cYE;cYEE",
    "cYI;cYA;cJU;bSAYISI JU;bCARRIER JO;cJE;cJEE;cJI;bSAYISI JI;bCARRIER JA;cJJU;cJJO;cJJE;cJJEE",
    "cJJI;cJJA;cLU;cLO;cLE;cLEE;cLI;cLA;cDLU;cDLO;cDLE;cDLEE;cDLI;cDLA;cLHU;cLHO;cLHE;cLHEE;cLHI",
    "cLHA;cTLHU;cTLHO;cTLHE;cTLHEE;cTLHI;cTLHA;cTLU;cTLO;cTLE;cTLEE;cTLI;cTLA;cZU;cZO;cZE;cZEE;cZI",
    "cZA;cZ;cs Z;cDZU;cDZO;cDZE;cDZEE;cDZI;cDZA;cSU;cSO;cSE;cSEE;cSI;cSA;cSHU;cSHO;cSHE;cSHEE;cSHI",
    "cSHA;cSH;cTSU;cTSO;cTSE;cTSEE;cTSI;cTSA;cCHU;cCHO;cCHE;cCHEE;cCHI;cCHA;cTTSU;cTTSO;cTTSE",
    "cTTSEE;cTTSI;cTTSA;bCHI g;bFULL STOP;bQAI;bNGAI;bNNGI;bNNGII;bNNGO;bNNGOO;bNNGA;bNNGAA",
    "bWOODS-CREE THWEE;cTHWI;cTHWII;cTHWO;cTHWOO;cTHWA;cTHWAA;cn TH;bBLACKFOOT W;OGHAM SPACE MARK",
    "aa BEITH;bLUIS;bFEARN;bSAIL;bNION;bUATH;bDAIR;bTINNE;bCOLL;bCEIRT;bMUIN;bGORT;bNGEADAL",
    "bSTRAIF;bRUIS;bAILM;bONN;bUR;bEADHADH;bIODHADH;bEABHADH;bOR;bUILLEANN;bIFIN;bEAMHANCHOLL",
    "bPEITH;aFEATHER MARK;aREVERSED FEATHER MARK;-3;RUNIC a FEHU FEOH FE F;bV;bURUZ UR U;bYR;bY;bW",
    "bTHURISAZ THURS THORN;bETH;bANSUZ A;bOS O;bAC A;bAESC;bLONG-BRANCH-OSS O;bSHORT-TWIG-OSS O;bO",
    "bOE;bON;bRAIDO RAD REID R;bKAUNA;bCEN;bKAUN K;bG;bENG;bGEBO GYFU G;bGAR;bWUNJO WYNN W",
    "bHAGLAZ H;bHAEGL H;bLONG-BRANCH-HAGALL H;bSHORT-TWIG-HAGALL H;bNAUDIZ NYD NAUD N",
    "bSHORT-TWIG-NAUD N;bDOTTED-N;bISAZ IS ISS I;bE;bJERAN J;bGER;bLONG-BRANCH-AR AE",
    "bSHORT-TWIG-AR A;bIWAZ EOH;bPERTHO PEORTH P;bALGIZ EOLHX;bSOWILO S;bSIGEL LONG-BRANCH-SOL S",
    "bSHORT-TWIG-SOL S;bC;bZ;bTIWAZ TIR TYR T;bSHORT-TWIG-TYR T;bD;bBERKANAN BEORC BJARKAN B",
    "bSHORT-TWIG-BJARKAN B;bDOTTED-P;bOPEN-P;bEHWAZ EH E;bMANNAZ MAN M;bLONG-BRANCH-MADR M",
    "bSHORT-TWIG-MADR M;bLAUKAZ LAGU LOGR L;bDOTTED-L;bINGWAZ;bING;bDAGAZ DAEG D;bOTHALAN ETHEL O",
    "bEAR;bIOR;bCWEORTH;bCALC;bCEALC;bSTAN;bLONG-BRANCH-YR;bSHORT-TWIG-YR;bICELANDIC-YR;bQ;bX",
    "aSINGLE PUNCTUATION;aMULTIPLE PUNCTUATION;aCROSS PUNCTUATION;aARLAUG w;aTVIMADUR w",
    "aBELGTHOR w;aa K;bSH;bOO;bFRANKS CASKET OS;dIS;dEH;dAC;dAESC;-7;TAGALOG a A;bI;bU;bKA;bGA",
    "bNGA;bTA;bDA;bNA;bPA;bBA;bMA;bYA;bRA;bLA;bWA;bSA;bHA;aVOWEL g I;cU;ag VIRAMA;bPAMUDPOD;-9",
    "aa ARCHAIC RA;HANUNOO a A;bI;bU;bKA;bGA;bNGA;bTA;bDA;bNA;bPA;bBA;bMA;bYA;bRA;bLA;bWA;bSA;bHA",
    "aVOWEL g I;cU;ag PAMUDPOD;PHILIPPINE SINGLE PUNCTUATION;al PUNCTUATION;-9;BUHID a A;bI;bU;bKA",
    "bGA;bNGA;bTA;bDA;bNA;bPA;bBA;bMA;bYA;bRA;bLA;bWA;bSA;bHA;aVOWEL g I;cU;-12;TAGBANWA a A;bI;bU",
    "bKA;bGA;bNGA;bTA;bDA;bNA;bPA;bBA;bMA;bYA;-1;bLA;bWA;bSA;-1;aVOWEL g I;cU;-12;KHMER a KA;bKHA",
    "bKO;bKHO;bNGO;bCA;bCHA;bCO;bCHO;bNYO;bDA;bTTHA;bDO;bTTHO;bNNO;bTA;bTHA;bTO;bTHO;bNO;bBA;bPHA",
    "bPO;bPHO;bMO;bYO;bRO;bLO;bVO;bSHA;bSSO;bSA;bHA;bLA;bQA;aINDEPENDENT VOWEL QAQ;cQAA;cQI;cQII",
    "cQU;cQUK;cQUU;cQUUV;cRY;cRYY;cLY;cLYY;cQE;cQAI;cQOO TYPE ONE;eTWO;cQAU;aVOWEL INHERENT AQ;cAA",
    "bg AA;cI;cII;cY;cYY;cU;cUU;cUA;cOE;cYA;cIE;cE;cAE;cAI;cOO;cAU;ag NIKAHIT;bREAHMUK",
    "bYUUKALEAPINTU;bMUUSIKATOAN;bTRIISAP;bBANTOC;bROBAT;bTOANDAKHIAT;bKAKABAT;bAHSDA",
    "bSAMYOK SANNYA;bVIRIAM;bCOENG;bBATHAMASAT;bKHAN;bBARIYOOSAN;bCAMNUC PII KUUH;bLEK TOO;bBEYYAL",
    "bPHNAEK MUAN;bKOOMUUT;aCURRENCY w RIEL;ag AVAKRAHASANYA;bATTHACAN;-2;aDIGIT ZERO;bONE;bTWO;bt",
    "bFOUR;bFIVE;bSIX;bSEVEN;bEIGHT;bNINE;-6;aw LEK ATTAK SON;dMUOY;dPII;dBEI;dBUON;dPRAM",
    "dPRAM-MUOY;dPRAM-PII;dPRAM-BEI;dPRAM-BUON;-6;MONGOLIAN BIRGA;aELLIPSIS;aCOMMA;aFULL STOP",
    "aCOLON;aFOUR DOTS;aTODO SOFT HYPHEN;aSIBE SYLLABLE BOUNDARY MARKER;aMANCHU COMMA;bFULL STOP",
    "aNIRUGU;aFREE VARIATION SELECTOR ONE;dTWO;dt;aVOWEL SEPARATOR;aFREE VARIATION SELECTOR FOUR",
    "aDIGIT ZERO;bONE;bTWO;bt;bFOUR;bFIVE;bSIX;bSEVEN;bEIGHT;bNINE;-6;aa A;bE;bI;bO;bU;bOE;bUE;bEE",
    "bNA;bANG;bBA;bPA;bQA;bGA;bMA;bLA;bSA;bSHA;bTA;bDA;bCHA;bJA;bYA;bRA;bWA;bFA;bKA;bKHA;bTSA;bZA",
    "bHAA;bZRA;bLHA;bZHI;bCHI;bTODO LONG VOWEL g;cE;cI;cO;cU;cOE;cUE;cANG;cBA;cPA;cQA;cGA;cMA;cTA",
    "cDA;cCHA;cJA;cTSA;cYA;cWA;cKA;cGAA;cHAA;cJIA;cNIA;cDZA;bSIBE E;cI;cIY;cUE;cU;cANG;cKA;cGA;cHA",
    "cPA;cSHA;cTA;cDA;cJA;cFA;cGAA;cHAA;cTSA;cZA;cRAA;cCHA;cZHA;bMANCHU I;cKA;cRA;cFA;cZHA",
    "bCHA b TWO DOTS;-7;bALI GALI ANUSVARA ONE;dVISARGA ONE;dDAMARU;dUBADAMA;dINVERTED UBADAMA",
    "dBALUDA;dt BALUDA;dA;dI;dKA;dNGA;dCA;dTTA;dTTHA;dDDA;dNNA;dTA;dDA;dPA;dPHA;dSSA;dZHA;dZA;dAH",
    "bTODO ALI GALI TA;eZHA;bMANCHU ALI GALI GHA;eNGA;eCA;eJHA;eTTA;eDDHA;eTA;eDHA;eSSA;eCYA;eZHA",
    "eZA;bALI GALI HALF U;eYA;bMANCHU ALI GALI BHA;bALI GALI DAGALGA;bMANCHU ALI GALI LHA;-5",
    "CANADIAN SYLLABICS OY;bAY;bAAY;bWAY;bPOY;bPAY;bPWOY;bTAY;bKAY;bKWAY;bMAY;bNOY;bNAY;bLAY;bSOY",
    "bSAY;bSHOY;bSHAY;bSHWOY;bYOY;bYAY;bRAY;bNWI;bOJIBWAY NWI;bNWII;bOJIBWAY NWII;bNWO",
    "bOJIBWAY NWO;bNWOO;bOJIBWAY NWOO;bRWEE;bRWI;bRWII;bRWO;bRWOO;bRWA;bOJIBWAY P;cT;cK;cC;cM;cN",
    "cS;cSH;bEASTERN W;bWESTERN W;bn d RING;cRAISED DOT;bR-CREE RWE;bWEST-CREE LOO;cLAA;bTHWE",
    "bTHWA;bTTHWE;bTTHOO;bTTHAA;bTLHWE;bTLHOO;bSAYISI SHWE;cSHOO;cHOO;bCARRIER GWU;cDENE GEE;cGAA",
    "cGWA;bSAYISI JUU;bCARRIER JWA;bBEAVER DENE L;dR;bCARRIER DENTAL S;-10;LIMBU VOWEL-CARRIER a",
    "aa KA;bKHA;bGA;bGHA;bNGA;bCA;bCHA;bJA;bJHA;bYAN;bTA;bTHA;bDA;bDHA;bNA;bPA;bPHA;bBA;bBHA;bMA",
    "bYA;bRA;bLA;bWA;bSHA;bSSA;bSA;bHA;bGYAN;bTRA;-1;aVOWEL g A;cI;cU;cEE;cAI;cOO;cAU;cE;cO",
    "aSUBJOINED a YA;cRA;cWA;-4;ad a KA;cNGA;cANUSVARA;cTA;cNA;cPA;cMA;cRA;cLA;ag MUKPHRENG",
    "bKEMPHRENG;bSA-I;-4;bLOO;-3;aEXCLAMATION MARK;aQUESTION MARK;aDIGIT ZERO;bONE;bTWO;bt;bFOUR",
    "bFIVE;bSIX;bSEVEN;bEIGHT;bNINE;TAI LE a KA;cXA;cNGA;cTSA;cSA;cYA;cTA;cTHA;cLA;cPA;cPHA;cMA",
    "cFA;cVA;cHA;cQA;cKHA;cTSHA;cNA;cA;cI;cEE;cEH;cU;cOO;cO;cUE;cE;cAUE;cAI;-2;cTONE-2;+4;-11",
    "NEW TAI LUE a HIGH QA;dLOW QA;dHIGH KA;eXA;eNGA;dLOW KA;eXA;eNGA;dHIGH TSA;eSA;eYA;dLOW TSA",
    "eSA;eYA;dHIGH TA;eTHA;eNA;dLOW TA;eTHA;eNA;dHIGH PA;ePHA;eMA;dLOW PA;ePHA;eMA;dHIGH FA;eVA",
    "eLA;dLOW FA;eVA;eLA;dHIGH HA;eDA;eBA;dLOW HA;eDA;eBA;dHIGH KVA;eXVA;dLOW KVA;eXVA;dHIGH SUA",
    "dLOW SUA;-4;cVOWEL g VOWEL SHORTENER;eAA;eII;eU;eUU;eE;eAE;eO;eOA;eUE;eAY;eAAY;eUY;eOY;eOAY",
    "eUEY;eIY;ca n V;eNG;eN;eM;eK;eD;eB;cTONE MARK-1;dMARK-2;-6;cDIGIT ZERO;dONE;dTWO;dt;dFOUR",
    "dFIVE;dSIX;dSEVEN;dEIGHT;dNINE;cTHAM DIGIT ONE;-3;cg LAE;dLAEV;KHMER w PATHAMASAT;bMUOY KOET",
    "bPII KOET;bBEI KOET;bBUON KOET;bPRAM KOET;bPRAM-MUOY KOET;bPRAM-PII KOET;bPRAM-BEI KOET",
    "bPRAM-BUON KOET;bDAP KOET;bDAP-MUOY KOET;bDAP-PII KOET;bDAP-BEI KOET;bDAP-BUON KOET",
    "bDAP-PRAM KOET;bTUTEYASAT;bMUOY ROC;bPII ROC;bBEI ROC;bBUON ROC;bPRAM ROC;bPRAM-MUOY ROC",
    "bPRAM-PII ROC;bPRAM-BEI ROC;bPRAM-BUON ROC;bDAP ROC;bDAP-MUOY ROC;bDAP-PII ROC;bDAP-BEI ROC",
    "bDAP-BUON ROC;bDAP-PRAM ROC;BUGINESE a KA;bGA;bNGA;bNGKA;bPA;bBA;bMA;bMPA;bTA;bDA;bNA;bNRA",
    "bCA;bJA;bNYA;bNYCA;bYA;bRA;bLA;bVA;bSA;bA;bHA;aVOWEL g I;cU;cE;cO;cAE;-2;aPALLAWA",
    "aEND OF SECTION;TAI THAM a HIGH KA;dKHA;dKXA;cLOW KA;dKXA;dKHA;cNGA;cHIGH CA;dCHA;cLOW CA;dSA",
    "dCHA;cNYA;cRATA;cHIGH RATHA;cDA;cLOW RATHA;cRANA;cHIGH TA;dTHA;cLOW TA;dTHA;cNA;cBA;cHIGH PA",
    "dPHA;dFA;cLOW PA;dFA;dPHA;cMA;cLOW YA;cHIGH YA;cRA;cRUE;cLA;cLUE;cWA;cHIGH SHA;dSSA;dSA;dHA",
    "cLLA;cA;cLOW HA;cI;cII;cU;cUU;cEE;cOO;cLAE;cGREAT SA;bCONSONANT g MEDIAL RA;eLA;dLA TANG LAI",
    "bg MAI KANG LAI;bCONSONANT g n NGA;dLOW PA;dHIGH RATHA OR LOW PA;dMA;dBA;dSA;-1;bg SAKOT",
    "bVOWEL g A;dMAI SAT;dAA;dTALL AA;dI;dII;dUE;dUUE;dU;dUU;dO;dOA m;dOY;dE;dAE;dOO;dAI;dTHAM AI",
    "dOA i;bg MAI KANG;cTONE-1;cTONE-2;cKHUEN TONE-3;+2;cRA HAAM;cMAI SAM;cKHUEN-LUE KARAN;-2",
    "bCOMBINING CRYPTOGRAMMIC DOT;bHORA DIGIT ZERO;dONE;dTWO;dt;dFOUR;dFIVE;dSIX;dSEVEN;dEIGHT",
    "dNINE;-6;bTHAM DIGIT ZERO;dONE;dTWO;dt;dFOUR;dFIVE;dSIX;dSEVEN;dEIGHT;dNINE;-6;bg WIANG",
    "cWIANGWAAK;cSAWAN;cKEOW;cHOY;cDOKMAI;cREVERSED ROTATED RANA;cMAI YAMOK;cKAAN;cKAANKUU",
    "cSATKAAN;cSATKAANKUU;cHANG;cCAANG;-2;COMBINING DOUBLED CIRCUMFLEX ACCENT;aDIAERESIS-RING",
    "aINFINITY;aDOWNWARDS f;aTRIPLE DOT;aX-X m;aWIGGLY LINE m;aOPEN MARK m;al OPEN MARK m",
    "aLIGHT CENTRALIZATION v m;aSTRONG CENTRALIZATION v m;aPARENTHESES i;al PARENTHESES i",
    "aPARENTHESES m;bOVERLAY;aLATIN d a W m;dTURNED W m;ao PARENTHESIS i o;ah PARENTHESIS i h",
    "ao PARENTHESIS m o;ah PARENTHESIS m h;aSQUARE BRACKETS i;aNUMBER g i;aINVERTED l ARCH i",
    "aPLUS g i;al PLUS g i;dm;aTRIPLE ACUTE ACCENT;aLATIN d a INSULAR G;eR;eT"]),
   (0x1b00, [
    "BALINESE g ULU RICEM;cCANDRA;bCECEK;bSURANG;bBISAH;aa AKARA;cTEDUNG;bIKARA;cTEDUNG;bUKARA",
    "cTEDUNG;bRA REPA;dTEDUNG;bLA LENGA;dTEDUNG;bEKARA;bAIKARA;bOKARA;cTEDUNG;bKA;cMAHAPRANA;bGA",
    "cGORA;bNGA;bCA;cLACA;bJA;cJERA;bNYA;bTA LATIK;cMURDA MAHAPRANA;bDA MURDA ALPAPRANA;dMAHAPRANA",
    "bNA RAMBAT;bTA;cTAWA;bDA;cMADU;bNA;bPA;cKAPAL;bBA;cKEMBANG;bMA;bYA;bRA;bLA;bWA;bSA SAGA;cSAPA",
    "bSA;bHA;ag REREKAN;aVOWEL g TEDUNG;cULU;dSARI;cSUKU;dILUT;cRA REPA;eTEDUNG;cLA LENGA;eTEDUNG",
    "cTALING;dREPA;dTEDUNG;dREPA TEDUNG;cPEPET;dTEDUNG;aADEG ADEG;aa KAF SASAK;bKHOT SASAK",
    "bTZIR SASAK;bEF SASAK;bVE SASAK;bZAL SASAK;bASYURA SASAK;bARCHAIC JNYA;-3;aDIGIT ZERO;bONE",
    "bTWO;bt;bFOUR;bFIVE;bSIX;bSEVEN;bEIGHT;bNINE;aPANTI;aPAMADA;aWINDU;aCARIK PAMUNGKAH;bSIKI",
    "bPAREREN;aPAMENENG;aMUSICAL w DONG;cDENG;cDUNG;cDANG;dSURANG;cDING;cDAENG;cDEUNG;cDAING",
    "cDANG GEDE;cCOMBINING TEGEH;dENDEP;dKEMPUL;dKEMPLI;dJEGOGAN;dKEMPUL b JEGOGAN",
    "dKEMPLI b JEGOGAN;dBENDE;dGONG;cRIGHT-HAND OPEN DUG;eDAG;dCLOSED TUK;eTAK",
    "cLEFT-HAND OPEN PANG;ePUNG;dCLOSED PLAK;ePLUK;dOPEN PING;aPANTI LANTANG;aPAMADA LANTANG;-1",
    "SUNDANESE g PANYECEK;bPANGLAYAR;bPANGWISAD;aa A;bI;bU;bAE;bO;bE;bEU;bKA;bQA;bGA;bNGA;bCA;bJA",
    "bZA;bNYA;bTA;bDA;bNA;bPA;bFA;bVA;bBA;bMA;bYA;bRA;bLA;bWA;bSA;bXA;bHA;aCONSONANT g PAMINGKAL",
    "cPANYAKRA;cPANYIKU;aVOWEL g PANGHULU;cPANYUKU;cPANAELAENG;cPANOLONG;cPAMEPET;cPANEULEUNG",
    "ag PAMAAEH;bVIRAMA;aCONSONANT g PASANGAN MA;dWA;aa KHA;bSYA;aDIGIT ZERO;bONE;bTWO;bt;bFOUR",
    "bFIVE;bSIX;bSEVEN;bEIGHT;bNINE;aAVAGRAHA;aa REU;bLEU;bBHA;bn K;cM;BATAK a A;bSIMALUNGUN A;bHA",
    "bSIMALUNGUN HA;bMANDAILING HA;bBA;bKARO BA;bPA;bSIMALUNGUN PA;bNA;bMANDAILING NA;bWA",
    "bSIMALUNGUN WA;bPAKPAK WA;bGA;bSIMALUNGUN GA;bJA;bDA;bRA;bSIMALUNGUN RA;bMA;bSIMALUNGUN MA",
    "bSOUTHERN TA;bNORTHERN TA;bSA;bSIMALUNGUN SA;bMANDAILING SA;bYA;bSIMALUNGUN YA;bNGA;bLA",
    "bSIMALUNGUN LA;bNYA;bCA;bNDA;bMBA;bI;bU;ag TOMPI;aVOWEL g E;cPAKPAK E;cEE;cI;cKARO I;cO",
    "cKARO O;cU;dFOR SIMALUNGUN SA;aCONSONANT g NG;cH;aPANGOLAT;aPANONGONAN;-8;aw BINDU NA METEK",
    "cPINARBORAS;cJUDUL;cPANGOLAT;LEPCHA a KA;bKLA;bKHA;bGA;bGLA;bNGA;bCA;bCHA;bJA;bNYA;bTA;bTHA",
    "bDA;bNA;bPA;bPLA;bPHA;bFA;bFLA;bBA;bBLA;bMA;bMLA;bTSA;bTSHA;bDZA;bYA;bRA;bLA;bHA;bHLA;bVA;bSA",
    "bSHA;bWA;bA;aSUBJOINED a YA;cRA;aVOWEL g AA;cI;cO;cOO;cU;cUU;cE;aCONSONANT g K;cM;cL;cN;cP;cR",
    "cT;cNYIN-DO;cKANG;ag RAN;bNUKTA;-3;aPUNCTUATION TA-ROL;bNYET THYOOM TA-ROL;bCER-WA",
    "bTSHOOK CER-WA;bTSHOOK;aDIGIT ZERO;bONE;bTWO;bt;bFOUR;bFIVE;bSIX;bSEVEN;bEIGHT;bNINE;-3",
    "aa TTA;bTTHA;bDDA;OL CHIKI DIGIT ZERO;cONE;cTWO;ct;cFOUR;cFIVE;cSIX;cSEVEN;cEIGHT;cNINE;ba LA",
    "cAT;cAG;cANG;cAL;cLAA;cAAK;cAAJ;cAAM;cAAW;cLI;cIS;cIH;cINY;cIR;cLU;cUC;cUD;cUNN;cUY;cLE;cEP",
    "cEDD;cEN;cERR;cLO;cOTT;cOB;cOV;cOH;bMU TTUDDAG;bGAAHLAA TTUDDAAG;bMU-GAAHLAA TTUDDAAG;bRELAA",
    "bPHAARKAA;bAHAD;bPUNCTUATION MUCAAD;cl MUCAAD;CYRILLIC d a ROUNDED VE;cLONG-LEGGED DE",
    "cNARROW O;cWIDE ES;cTALL TE;cTHREE-LEGGED TE;cTALL HARD g;dYAT;cUNBLENDED UK;-7",
    "GEORGIAN MTAVRULI c a AN;dBAN;dGAN;dDON;dEN;dVIN;dZEN;dTAN;dIN;dKAN;dLAS;dMAN;dNAR;dON;dPAR",
    "dZHAR;dRAE;dSAN;dTAR;dUN;dPHAR;dKHAR;dGHAN;dQAR;dSHIN;dCHIN;dCAN;dJIL;dCIL;dCHAR;dXAN;dJHAN",
    "dHAE;dHE;dHIE;dWE;dHAR;dHOE;dFI;dYN;dELIFI;dTURNED GAN;dAIN;-2;dAEN;dHARD g;dLABIAL g",
    "SUNDANESE PUNCTUATION BINDU SURYA;cPANGLONG;cPURNAMA;cCAKRA;cLEU SATANGA;cKA SATANGA",
    "cDA SATANGA;cBA SATANGA;-8;VEDIC TONE KARSHANA;bSHARA;bPRENKHA;ag NIHSHVASA",
    "bYAJURVEDIC MIDLINE SVARITA;aTONE YAJURVEDIC AGGRAVATED INDEPENDENT SVARITA",
    "cINDEPENDENT SVARITA;cKATHAKA INDEPENDENT SVARITA;bCANDRA m",
    "bYAJURVEDIC KATHAKA INDEPENDENT SVARITA SCHROEDER;bl SVARITA;bTRIPLE SVARITA",
    "bKATHAKA ANUDATTA;bDOT m;bTWO DOTS m;bt DOTS m;bRIGVEDIC KASHMIRI INDEPENDENT SVARITA",
    "bATHARVAVEDIC INDEPENDENT SVARITA;ag VISARGA SVARITA;cUDATTA;bREVERSED VISARGA UDATTA",
    "bVISARGA ANUDATTA;bREVERSED VISARGA ANUDATTA;bVISARGA UDATTA b TAIL;cANUDATTA b TAIL",
    "bANUSVARA ANTARGOMUKHA;cBAHIRGOMUKHA;cVAMAGOMUKHA;db TAIL;bTIRYAK;bHEXIFORM LONG ANUSVARA",
    "bLONG ANUSVARA;bRTHANG LONG ANUSVARA;bANUSVARA UBHAYATO MUKHA;bARDHAVISARGA",
    "bROTATED ARDHAVISARGA;aTONE CANDRA i;ag JIHVAMULIYA;bUPADHMANIYA;bATIKRAMA;aTONE RING i",
    "bl RING i;ag l ANUSVARA ANTARGOMUKHA;-5;LATIN a d c A;dAE;ad a TURNED AE;aa d c BARRED B;dC",
    "dD;dETH;dE;ad a TURNED OPEN E;dI;aa d c J;dK;dL b v;dM;dREVERSED N;dO;dOPEN O;ad a SIDEWAYS O",
    "dOPEN O;dO b v;cTURNED OE;aa d c OU;ad a TOP HALF O;cBOTTOM HALF O;aa d c P;dREVERSED R",
    "dTURNED R;dT;dU;ad a SIDEWAYS U;dDIAERESIZED U;dTURNED M;aa d c V;dW;dZ;dEZH",
    "bVOICED LARYNGEAL SPIRANT;bAIN;GREEK a d c GAMMA;dLAMDA;dPI;dRHO;dPSI;CYRILLIC a d c EL",
    "MODIFIER a c A;cAE;cB;cBARRED B;cD;cE;cREVERSED E;cG;cH;cI;cJ;cK;cL;cM;cN;cREVERSED N;cO;cOU",
    "cP;cR;cT;cU;cW;bd A;cTURNED A;cALPHA;cTURNED AE;cB;cD;cE;cSCHWA;cOPEN E;cTURNED OPEN E;cG",
    "cTURNED I;cK;cM;cENG;cO;cOPEN O;cTOP HALF O;cBOTTOM HALF O;cP;cT;cU;cSIDEWAYS U;cTURNED M;cV",
    "cAIN;cBETA;cGREEK GAMMA;cDELTA;cGREEK PHI;cCHI;LATIN SUBSCRIPT d a I;dR;dU;dV",
    "GREEK SUBSCRIPT d a BETA;dGAMMA;dRHO;dPHI;dCHI;LATIN d a UE;cB b MIDDLE TILDE",
    "cD b MIDDLE TILDE;cF b MIDDLE TILDE;cM b MIDDLE TILDE;cN b MIDDLE TILDE;cP b MIDDLE TILDE",
    "cR b MIDDLE TILDE;eFISHHOOK p MIDDLE TILDE;cS b MIDDLE TILDE;cT b MIDDLE TILDE",
    "cZ b MIDDLE TILDE;cTURNED G;MODIFIER a CYRILLIC EN;LATIN d a INSULAR G;cTH b STRIKETHROUGH",
    "bc a I b v;ba IOTA b v;cP b v;bc a U b v;ba UPSILON b v;cB b PALATAL HOOK;cD b PALATAL HOOK",
    "cF b PALATAL HOOK;cG b PALATAL HOOK;cK b PALATAL HOOK;cL b PALATAL HOOK;cM b PALATAL HOOK",
    "cN b PALATAL HOOK;cP b PALATAL HOOK;cR b PALATAL HOOK;cS b PALATAL HOOK;cESH b PALATAL HOOK",
    "cV b PALATAL HOOK;cX b PALATAL HOOK;cZ b PALATAL HOOK;cA b RETROFLEX HOOK",
    "cALPHA b RETROFLEX HOOK;cD b HOOK p TAIL;cE b RETROFLEX HOOK;cOPEN E b RETROFLEX HOOK",
    "cREVERSED OPEN E b RETROFLEX HOOK;cSCHWA b RETROFLEX HOOK;cI b RETROFLEX HOOK",
    "cOPEN O b RETROFLEX HOOK;cESH b RETROFLEX HOOK;cU b RETROFLEX HOOK;cEZH b RETROFLEX HOOK",
    "MODIFIER a d TURNED ALPHA;cC;db CURL;cETH;cREVERSED OPEN E;cF;cDOTLESS J b v;cSCRIPT G",
    "cTURNED H;cI b v;cIOTA;cc I;eb v;cJ b CROSSED-TAIL;cL b RETROFLEX HOOK;ePALATAL HOOK;cc L",
    "cM b HOOK;cTURNED M b LONG LEG;cN b o HOOK;eRETROFLEX HOOK;cc N;cBARRED O;cPHI;cS b HOOK;cESH",
    "cT b PALATAL HOOK;cU BAR;cUPSILON;cc U;cV b HOOK;cTURNED V;cZ;db RETROFLEX HOOK;eCURL;cEZH",
    "cTHETA;COMBINING DOTTED GRAVE ACCENT;bACUTE ACCENT;aSNAKE m;aSUSPENSION MARK;aMACRON-ACUTE",
    "aGRAVE-MACRON;aMACRON-GRAVE;aACUTE-MACRON;aGRAVE-ACUTE-GRAVE;aACUTE-GRAVE-ACUTE",
    "aLATIN d a R m;aBREVE-MACRON;aMACRON-BREVE;al CIRCUMFLEX i;aOGONEK i;aZIGZAG m;aIS m;aUR i",
    "aUS i;aLATIN d a FLATTENED OPEN A i;dAE;dAO;dAV;dC CEDILLA;dINSULAR D;dETH;dG;ba d c G;bd a K",
    "dL;ba d c L;eM;bd a N;ba d c N;eR;bd a R ROTUNDA;dS;dLONG S;dZ;dALPHA;dB;dBETA;dSCHWA;dF",
    "dL b l MIDDLE TILDE;dO b LIGHT CENTRALIZATION v;dP;dESH;dU b LIGHT CENTRALIZATION v;dW",
    "dA b DIAERESIS;dO b DIAERESIS;dU b DIAERESIS;aUP TACK i;aKAVYKA i h;co;aDOT i o",
    "aWIDE INVERTED BRIDGE m;aDOT m o;aDELETION MARK;al INVERTED BREVE m;aALMOST EQUAL TO m",
    "ao ARROWHEAD i;ah ARROWHEAD p DOWN ARROWHEAD m;LATIN c a A b RING m;ad a A b RING m",
    "ac a B b DOT i;ad a B b DOT i;ac a B b DOT m;ad a B b DOT m;ac a B b LINE m;ad a B b LINE m",
    "ac a C b CEDILLA p ACUTE;ad a C b CEDILLA p ACUTE;ac a D b DOT i;ad a D b DOT i",
    "ac a D b DOT m;ad a D b DOT m;ac a D b LINE m;ad a D b LINE m;ac a D b CEDILLA",
    "ad a D b CEDILLA;ac a D b CIRCUMFLEX m;ad a D b CIRCUMFLEX m;ac a E b MACRON p GRAVE",
    "ad a E b MACRON p GRAVE;ac a E b MACRON p ACUTE;ad a E b MACRON p ACUTE;ac a E b CIRCUMFLEX m",
    "ad a E b CIRCUMFLEX m;ac a E b TILDE m;ad a E b TILDE m;ac a E b CEDILLA p BREVE",
    "ad a E b CEDILLA p BREVE;ac a F b DOT i;ad a F b DOT i;ac a G b MACRON;ad a G b MACRON",
    "ac a H b DOT i;ad a H b DOT i;ac a H b DOT m;ad a H b DOT m;ac a H b DIAERESIS",
    "ad a H b DIAERESIS;ac a H b CEDILLA;ad a H b CEDILLA;ac a H b BREVE m;ad a H b BREVE m",
    "ac a I b TILDE m;ad a I b TILDE m;ac a I b DIAERESIS p ACUTE;ad a I b DIAERESIS p ACUTE",
    "ac a K b ACUTE;ad a K b ACUTE;ac a K b DOT m;ad a K b DOT m;ac a K b LINE m;ad a K b LINE m",
    "ac a L b DOT m;ad a L b DOT m;ac a L b DOT m p MACRON;ad a L b DOT m p MACRON;ac a L b LINE m",
    "ad a L b LINE m;ac a L b CIRCUMFLEX m;ad a L b CIRCUMFLEX m;ac a M b ACUTE;ad a M b ACUTE",
    "ac a M b DOT i;ad a M b DOT i;ac a M b DOT m;ad a M b DOT m;ac a N b DOT i;ad a N b DOT i",
    "ac a N b DOT m;ad a N b DOT m;ac a N b LINE m;ad a N b LINE m;ac a N b CIRCUMFLEX m",
    "ad a N b CIRCUMFLEX m;ac a O b TILDE p ACUTE;ad a O b TILDE p ACUTE",
    "ac a O b TILDE p DIAERESIS;ad a O b TILDE p DIAERESIS;ac a O b MACRON p GRAVE",
    "ad a O b MACRON p GRAVE;ac a O b MACRON p ACUTE;ad a O b MACRON p ACUTE;ac a P b ACUTE",
    "ad a P b ACUTE;ac a P b DOT i;ad a P b DOT i;ac a R b DOT i;ad a R b DOT i;ac a R b DOT m",
    "ad a R b DOT m;ac a R b DOT m p MACRON;ad a R b DOT m p MACRON;ac a R b LINE m",
    "ad a R b LINE m;ac a S b DOT i;ad a S b DOT i;ac a S b DOT m;ad a S b DOT m",
    "ac a S b ACUTE p DOT i;ad a S b ACUTE p DOT i;ac a S b CARON p DOT i;ad a S b CARON p DOT i",
    "ac a S b DOT m p DOT i;ad a S b DOT m p DOT i;ac a T b DOT i;ad a T b DOT i;ac a T b DOT m",
    "ad a T b DOT m;ac a T b LINE m;ad a T b LINE m;ac a T b CIRCUMFLEX m;ad a T b CIRCUMFLEX m",
    "ac a U b DIAERESIS m;ad a U b DIAERESIS m;ac a U b TILDE m;ad a U b TILDE m",
    "ac a U b CIRCUMFLEX m;ad a U b CIRCUMFLEX m;ac a U b TILDE p ACUTE;ad a U b TILDE p ACUTE",
    "ac a U b MACRON p DIAERESIS;ad a U b MACRON p DIAERESIS;ac a V b TILDE;ad a V b TILDE",
    "ac a V b DOT m;ad a V b DOT m;ac a W b GRAVE;ad a W b GRAVE;ac a W b ACUTE;ad a W b ACUTE",
    "ac a W b DIAERESIS;ad a W b DIAERESIS;ac a W b DOT i;ad a W b DOT i;ac a W b DOT m",
    "ad a W b DOT m;ac a X b DOT i;ad a X b DOT i;ac a X b DIAERESIS;ad a X b DIAERESIS",
    "ac a Y b DOT i;ad a Y b DOT i;ac a Z b CIRCUMFLEX;ad a Z b CIRCUMFLEX;ac a Z b DOT m",
    "ad a Z b DOT m;ac a Z b LINE m;ad a Z b LINE m;cH b LINE m;cT b DIAERESIS;cW b RING i",
    "cY b RING i;cA b h HALF RING;cLONG S b DOT i;fDIAGONAL v;fHIGH v;ac a SHARP S;ad a DELTA",
    "ac a A b DOT m;ad a A b DOT m;ac a A b HOOK i;ad a A b HOOK i;ac a A b CIRCUMFLEX p ACUTE",
    "ad a A b CIRCUMFLEX p ACUTE;ac a A b CIRCUMFLEX p GRAVE;ad a A b CIRCUMFLEX p GRAVE",
    "ac a A b CIRCUMFLEX p HOOK i;ad a A b CIRCUMFLEX p HOOK i;ac a A b CIRCUMFLEX p TILDE",
    "ad a A b CIRCUMFLEX p TILDE;ac a A b CIRCUMFLEX p DOT m;ad a A b CIRCUMFLEX p DOT m",
    "ac a A b BREVE p ACUTE;ad a A b BREVE p ACUTE;ac a A b BREVE p GRAVE;ad a A b BREVE p GRAVE",
    "ac a A b BREVE p HOOK i;ad a A b BREVE p HOOK i;ac a A b BREVE p TILDE;ad a A b BREVE p TILDE",
    "ac a A b BREVE p DOT m;ad a A b BREVE p DOT m;ac a E b DOT m;ad a E b DOT m;ac a E b HOOK i",
    "ad a E b HOOK i;ac a E b TILDE;ad a E b TILDE;ac a E b CIRCUMFLEX p ACUTE",
    "ad a E b CIRCUMFLEX p ACUTE;ac a E b CIRCUMFLEX p GRAVE;ad a E b CIRCUMFLEX p GRAVE",
    "ac a E b CIRCUMFLEX p HOOK i;ad a E b CIRCUMFLEX p HOOK i;ac a E b CIRCUMFLEX p TILDE",
    "ad a E b CIRCUMFLEX p TILDE;ac a E b CIRCUMFLEX p DOT m;ad a E b CIRCUMFLEX p DOT m",
    "ac a I b HOOK i;ad a I b HOOK i;ac a I b DOT m;ad a I b DOT m;ac a O b DOT m;ad a O b DOT m",
    "ac a O b HOOK i;ad a O b HOOK i;ac a O b CIRCUMFLEX p ACUTE;ad a O b CIRCUMFLEX p ACUTE",
    "ac a O b CIRCUMFLEX p GRAVE;ad a O b CIRCUMFLEX p GRAVE;ac a O b CIRCUMFLEX p HOOK i",
    "ad a O b CIRCUMFLEX p HOOK i;ac a O b CIRCUMFLEX p TILDE;ad a O b CIRCUMFLEX p TILDE",
    "ac a O b CIRCUMFLEX p DOT m;ad a O b CIRCUMFLEX p DOT m;ac a O b HORN p ACUTE",
    "ad a O b HORN p ACUTE;ac a O b HORN p GRAVE;ad a O b HORN p GRAVE;ac a O b HORN p HOOK i",
    "ad a O b HORN p HOOK i;ac a O b HORN p TILDE;ad a O b HORN p TILDE;ac a O b HORN p DOT m",
    "ad a O b HORN p DOT m;ac a U b DOT m;ad a U b DOT m;ac a U b HOOK i;ad a U b HOOK i",
    "ac a U b HORN p ACUTE;ad a U b HORN p ACUTE;ac a U b HORN p GRAVE;ad a U b HORN p GRAVE",
    "ac a U b HORN p HOOK i;ad a U b HORN p HOOK i;ac a U b HORN p TILDE;ad a U b HORN p TILDE",
    "ac a U b HORN p DOT m;ad a U b HORN p DOT m;ac a Y b GRAVE;ad a Y b GRAVE;ac a Y b DOT m",
    "ad a Y b DOT m;ac a Y b HOOK i;ad a Y b HOOK i;ac a Y b TILDE;ad a Y b TILDE",
    "ac a MIDDLE-WELSH LL;ad a MIDDLE-WELSH LL;ac a MIDDLE-WELSH V;ad a MIDDLE-WELSH V",
    "ac a Y b LOOP;ad a Y b LOOP;GREEK d a ALPHA b PSILI;eDASIA;ePSILI p VARIA;eDASIA p VARIA",
    "ePSILI p OXIA;eDASIA p OXIA;ePSILI p PERISPOMENI;eDASIA p PERISPOMENI;ac a ALPHA b PSILI",
    "eDASIA;ePSILI p VARIA;eDASIA p VARIA;ePSILI p OXIA;eDASIA p OXIA;ePSILI p PERISPOMENI",
    "eDASIA p PERISPOMENI;ad a EPSILON b PSILI;eDASIA;ePSILI p VARIA;eDASIA p VARIA;ePSILI p OXIA",
    "eDASIA p OXIA;-2;ac a EPSILON b PSILI;eDASIA;ePSILI p VARIA;eDASIA p VARIA;ePSILI p OXIA",
    "eDASIA p OXIA;-2;ad a ETA b PSILI;eDASIA;ePSILI p VARIA;eDASIA p VARIA;ePSILI p OXIA",
    "eDASIA p OXIA;ePSILI p PERISPOMENI;eDASIA p PERISPOMENI;ac a ETA b PSILI;eDASIA",
    "ePSILI p VARIA;eDASIA p VARIA;ePSILI p OXIA;eDASIA p OXIA;ePSILI p PERISPOMENI",
    "eDASIA p PERISPOMENI;ad a IOTA b PSILI;eDASIA;ePSILI p VARIA;eDASIA p VARIA;ePSILI p OXIA",
    "eDASIA p OXIA;ePSILI p PERISPOMENI;eDASIA p PERISPOMENI;ac a IOTA b PSILI;eDASIA",
    "ePSILI p VARIA;eDASIA p VARIA;ePSILI p OXIA;eDASIA p OXIA;ePSILI p PERISPOMENI",
    "eDASIA p PERISPOMENI;ad a OMICRON b PSILI;eDASIA;ePSILI p VARIA;eDASIA p VARIA;ePSILI p OXIA",
    "eDASIA p OXIA;-2;ac a OMICRON b PSILI;eDASIA;ePSILI p VARIA;eDASIA p VARIA;ePSILI p OXIA",
    "eDASIA p OXIA;-2;ad a UPSILON b PSILI;eDASIA;ePSILI p VARIA;eDASIA p VARIA;ePSILI p OXIA",
    "eDASIA p OXIA;ePSILI p PERISPOMENI;eDASIA p PERISPOMENI;-1;ac a UPSILON b DASIA;-1;fp VARIA",
    "-1;gOXIA;-1;gPERISPOMENI;ad a OMEGA b PSILI;eDASIA;ePSILI p VARIA;eDASIA p VARIA",
    "ePSILI p OXIA;eDASIA p OXIA;ePSILI p PERISPOMENI;eDASIA p PERISPOMENI;ac a OMEGA b PSILI",
    "eDASIA;ePSILI p VARIA;eDASIA p VARIA;ePSILI p OXIA;eDASIA p OXIA;ePSILI p PERISPOMENI",
    "eDASIA p PERISPOMENI;ad a ALPHA b VARIA;eOXIA;cEPSILON b VARIA;eOXIA;cETA b VARIA;eOXIA",
    "cIOTA b VARIA;eOXIA;cOMICRON b VARIA;eOXIA;cUPSILON b VARIA;eOXIA;cOMEGA b VARIA;eOXIA;-2",
    "cALPHA b PSILI p YPOGEGRAMMENI;eDASIA p YPOGEGRAMMENI;ePSILI p VARIA p YPOGEGRAMMENI",
    "eDASIA p VARIA p YPOGEGRAMMENI;ePSILI p OXIA p YPOGEGRAMMENI;eDASIA p OXIA p YPOGEGRAMMENI",
    "ePSILI p PERISPOMENI p YPOGEGRAMMENI;eDASIA p PERISPOMENI p YPOGEGRAMMENI",
    "ac a ALPHA b PSILI p PROSGEGRAMMENI;eDASIA p PROSGEGRAMMENI;ePSILI p VARIA p PROSGEGRAMMENI",
    "eDASIA p VARIA p PROSGEGRAMMENI;ePSILI p OXIA p PROSGEGRAMMENI;eDASIA p OXIA p PROSGEGRAMMENI",
    "ePSILI p PERISPOMENI p PROSGEGRAMMENI;eDASIA p PERISPOMENI p PROSGEGRAMMENI",
    "ad a ETA b PSILI p YPOGEGRAMMENI;eDASIA p YPOGEGRAMMENI;ePSILI p VARIA p YPOGEGRAMMENI",
    "eDASIA p VARIA p YPOGEGRAMMENI;ePSILI p OXIA p YPOGEGRAMMENI;eDASIA p OXIA p YPOGEGRAMMENI",
    "ePSILI p PERISPOMENI p YPOGEGRAMMENI;eDASIA p PERISPOMENI p YPOGEGRAMMENI",
    "ac a ETA b PSILI p PROSGEGRAMMENI;eDASIA p PROSGEGRAMMENI;ePSILI p VARIA p PROSGEGRAMMENI",
    "eDASIA p VARIA p PROSGEGRAMMENI;ePSILI p OXIA p PROSGEGRAMMENI;eDASIA p OXIA p PROSGEGRAMMENI",
    "ePSILI p PERISPOMENI p PROSGEGRAMMENI;eDASIA p PERISPOMENI p PROSGEGRAMMENI",
    "ad a OMEGA b PSILI p YPOGEGRAMMENI;eDASIA p YPOGEGRAMMENI;ePSILI p VARIA p YPOGEGRAMMENI",
    "eDASIA p VARIA p YPOGEGRAMMENI;ePSILI p OXIA p YPOGEGRAMMENI;eDASIA p OXIA p YPOGEGRAMMENI",
    "ePSILI p PERISPOMENI p YPOGEGRAMMENI;eDASIA p PERISPOMENI p YPOGEGRAMMENI",
    "ac a OMEGA b PSILI p PROSGEGRAMMENI;eDASIA p PROSGEGRAMMENI;ePSILI p VARIA p PROSGEGRAMMENI",
    "eDASIA p VARIA p PROSGEGRAMMENI;ePSILI p OXIA p PROSGEGRAMMENI;eDASIA p OXIA p PROSGEGRAMMENI",
    "ePSILI p PERISPOMENI p PROSGEGRAMMENI;eDASIA p PERISPOMENI p PROSGEGRAMMENI",
    "ad a ALPHA b VRACHY;eMACRON;eVARIA p YPOGEGRAMMENI;eYPOGEGRAMMENI;eOXIA p YPOGEGRAMMENI;-1",
    "ePERISPOMENI;fp YPOGEGRAMMENI;ac a ALPHA b VRACHY;eMACRON;eVARIA;eOXIA;ePROSGEGRAMMENI",
    "aKORONIS;aPROSGEGRAMMENI;aPSILI;aPERISPOMENI;aDIALYTIKA p PERISPOMENI",
    "ad a ETA b VARIA p YPOGEGRAMMENI;eYPOGEGRAMMENI;eOXIA p YPOGEGRAMMENI;-1;ePERISPOMENI",
    "fp YPOGEGRAMMENI;ac a EPSILON b VARIA;eOXIA;cETA b VARIA;eOXIA;ePROSGEGRAMMENI;aPSILI p VARIA",
    "cOXIA;cPERISPOMENI;ad a IOTA b VRACHY;eMACRON;eDIALYTIKA p VARIA;gOXIA;-2;ePERISPOMENI",
    "eDIALYTIKA p PERISPOMENI;ac a IOTA b VRACHY;eMACRON;eVARIA;eOXIA;-1;aDASIA p VARIA;cOXIA",
    "cPERISPOMENI;ad a UPSILON b VRACHY;eMACRON;eDIALYTIKA p VARIA;gOXIA;cRHO b PSILI;eDASIA",
    "cUPSILON b PERISPOMENI;eDIALYTIKA p PERISPOMENI;ac a UPSILON b VRACHY;eMACRON;eVARIA;eOXIA",
    "cRHO b DASIA;aDIALYTIKA p VARIA;cOXIA;aVARIA;-2;ad a OMEGA b VARIA p YPOGEGRAMMENI",
    "eYPOGEGRAMMENI;eOXIA p YPOGEGRAMMENI;-1;ePERISPOMENI;fp YPOGEGRAMMENI;ac a OMICRON b VARIA",
    "eOXIA;cOMEGA b VARIA;eOXIA;ePROSGEGRAMMENI;aOXIA;aDASIA"])]

end Text
end Literate
