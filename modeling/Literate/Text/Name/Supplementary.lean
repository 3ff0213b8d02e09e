import Literate.Text.Name.Run

/-!
# Names of characters: supplementary characters

The characters of more than four hexadecimal digits.
-/

namespace Literate
namespace Text

/-- The names of the characters from U+10000 on. -/
def supplementaryNames : NameRuns :=
  [(0x10000, [
    "LINEAR B SYLLABLE B008 A;cB038 E;cB028 I;cB061 O;cB010 U;cB001 DA;cB045 DE;cB007 DI;cB014 DO",
    "cB051 DU;cB057 JA;cB046 JE;-1;cB036 JO;cB065 JU;cB077 KA;cB044 KE;cB067 KI;cB070 KO;cB081 KU",
    "cB080 MA;cB013 ME;cB073 MI;cB015 MO;cB023 MU;cB006 NA;cB024 NE;cB030 NI;cB052 NO;cB055 NU",
    "cB003 PA;cB072 PE;cB039 PI;cB011 PO;cB050 PU;cB016 QA;cB078 QE;cB021 QI;cB032 QO;-1;cB060 RA",
    "cB027 RE;cB053 RI;cB002 RO;cB026 RU;cB031 SA;cB009 SE;cB041 SI;cB012 SO;cB058 SU;cB059 TA",
    "cB004 TE;cB037 TI;cB005 TO;cB069 TU;cB054 WA;cB075 WE;cB040 WI;cB042 WO;-1;cB017 ZA;cB074 ZE",
    "-1;cB020 ZO;cB025 A2;cB043 A3;cB085 AU;cB071 DWE;cB090 DWO;cB048 NWA;cB029 PU2;cB062 PTE",
    "cB076 RA2;cB033 RA3;cB068 RO2;cB066 TA2;cB087 TWE;cB091 TWO;-2;bw B018;cB019;cB022;cB034",
    "cB047;cB049;cB056;cB063;cB064;cB079;cB082;cB083;cB086;cB089"]),
   (0x10080, [
    "LINEAR B IDEOGRAM B100 MAN;cB102 WOMAN;cB104 DEER;cB105 EQUID;cB105F MARE;cB105M STALLION",
    "cB106F EWE;cB106M RAM;cB107F SHE-GOAT;cB107M HE-GOAT;cB108F SOW;cB108M BOAR;cB109F COW",
    "cB109M BULL;cB120 WHEAT;cB121 BARLEY;cB122 OLIVE;cB123 SPICE;cB125 CYPERUS",
    "bMONOGRAM B127 KAPO;cB128 KANAKO;bIDEOGRAM B130 OIL;cB131 WINE;cB132;bMONOGRAM B133 AREPA",
    "cB135 MERI;bIDEOGRAM B140 BRONZE;cB141 GOLD;cB142;cB145 WOOL;cB146;cB150;cB151 HORN;cB152;+2",
    "bMONOGRAM B156 TURO2;bIDEOGRAM B157;cB158;cB159 CLOTH;cB160;cB161;cB162 GARMENT;cB163 ARMOUR",
    "cB164;+8;cB173 MONTH;cB174;cB176 TREE;cB177;+8;cB189;cB190;cB191 HELMET;cB220 FOOTSTOOL",
    "cB225 BATHTUB;cB230 SPEAR;cB231 f;cB232;cB233 SWORD;cB234;cB236;cB240 WHEELED CHARIOT",
    "cB241 CHARIOT;cB242 CHARIOT FRAME;cB243 WHEEL;cB245;cB246;bMONOGRAM B247 DIPTE;bIDEOGRAM B248",
    "cB249;cB251;+2;cB254 DART;cB255;+4;cVESSEL B155;dB200;+19;dB221;dB222;dB226;+3;dB250;dB305;-5",
    "AEGEAN WORD SEPARATOR LINE;cDOT;aCHECK MARK;-4;aNUMBER ONE;bTWO;bt;bFOUR;bFIVE;bSIX;bSEVEN",
    "bEIGHT;bNINE;bTEN;bTWENTY;bTHIRTY;bFORTY;bFIFTY;bSIXTY;bSEVENTY;bEIGHTY;bNINETY;bONE HUNDRED",
    "bTWO HUNDRED;bt HUNDRED;bFOUR HUNDRED;bFIVE HUNDRED;bSIX HUNDRED;bSEVEN HUNDRED",
    "bEIGHT HUNDRED;bNINE HUNDRED;bONE THOUSAND;bTWO THOUSAND;bt THOUSAND;bFOUR THOUSAND",
    "bFIVE THOUSAND;bSIX THOUSAND;bSEVEN THOUSAND;bEIGHT THOUSAND;bNINE THOUSAND;bTEN THOUSAND",
    "bTWENTY THOUSAND;bTHIRTY THOUSAND;bFORTY THOUSAND;bFIFTY THOUSAND;bSIXTY THOUSAND",
    "bSEVENTY THOUSAND;bEIGHTY THOUSAND;bNINETY THOUSAND;-3;aWEIGHT BASE UNIT;bFIRST SUBUNIT",
    "bSECOND SUBUNIT;bTHIRD SUBUNIT;bFOURTH SUBUNIT;aDRY MEASURE FIRST SUBUNIT",
    "aLIQUID MEASURE FIRST SUBUNIT;aMEASURE SECOND SUBUNIT;bTHIRD SUBUNIT",
    "GREEK ACROPHONIC ATTIC ONE QUARTER;dHALF;dDRACHMA;cFIVE;cFIFTY;cFIVE HUNDRED;dTHOUSAND",
    "cFIFTY THOUSAND;cFIVE TALENTS;cTEN TALENTS;cFIFTY TALENTS;cONE HUNDRED TALENTS",
    "cFIVE HUNDRED TALENTS;cONE THOUSAND TALENTS;cFIVE THOUSAND TALENTS;dSTATERS;cTEN STATERS",
    "cFIFTY STATERS;cONE HUNDRED STATERS;cFIVE HUNDRED STATERS;cONE THOUSAND STATERS",
    "cTEN THOUSAND STATERS;cFIFTY THOUSAND STATERS;cTEN MNAS;bHERAEUM ONE PLETHRON;bTHESPIAN ONE",
    "bHERMIONIAN ONE;bEPIDAUREAN TWO;bTHESPIAN TWO;bCYRENAIC TWO DRACHMAS;bEPIDAUREAN TWO DRACHMAS",
    "bTROEZENIAN FIVE;cTEN;dALTERNATE e;bHERMIONIAN TEN;bMESSENIAN TEN;bTHESPIAN TEN;cTHIRTY",
    "bTROEZENIAN FIFTY;dALTERNATE e;bHERMIONIAN FIFTY;bTHESPIAN FIFTY;cONE HUNDRED;ct HUNDRED",
    "bEPIDAUREAN FIVE HUNDRED;bTROEZENIAN FIVE HUNDRED;bTHESPIAN FIVE HUNDRED",
    "bCARYSTIAN FIVE HUNDRED;bNAXIAN FIVE HUNDRED;bTHESPIAN ONE THOUSAND;cFIVE THOUSAND",
    "bDELPHIC FIVE MNAS;bSTRATIAN FIFTY MNAS;aONE HALF g;dALTERNATE e;aTWO THIRDS g;at QUARTERS g",
    "aYEAR g;aTALENT g;aDRACHMA g;aOBOL g;aTWO OBOLS g;at OBOLS g;aFOUR OBOLS g;aFIVE OBOLS g",
    "aMETRETES g;aKYATHOS BASE g;aLITRA g;aOUNKIA g;aXESTES g;aARTABE g;aAROURA g;aGRAMMA g",
    "aTRYBLION BASE g;aZERO g;aONE QUARTER g;aSINUSOID g;aINDICTION g;NOMISMA g;-1;ROMAN SEXTANS g",
    "aUNCIA g;aSEMUNCIA g;aSEXTULA g;aDIMIDIA SEXTULA g;aSILIQUA g;aDENARIUS g;aQUINARIUS g",
    "aSESTERTIUS g;aDUPONDIUS g;aAS g;aCENTURIAL g;ASCIA w;-3;GREEK w TAU RHO"]),
   (0x101d0, [
    "PHAISTOS DISC g PEDESTRIAN;cPLUMED HEAD;cTATTOOED HEAD;cCAPTIVE;cCHILD;cWOMAN;cHELMET",
    "cGAUNTLET;cTIARA;cf;cBOW;cSHIELD;cCLUB;cMANACLES;cMATTOCK;cSAW;cLID;cBOOMERANG",
    "cCARPENTRY PLANE;cDOLIUM;cCOMB;cSLING;cCOLUMN;cBEEHIVE;cSHIP;cHORN;cHIDE;cBULLS LEG;cCAT;cRAM",
    "cEAGLE;cDOVE;cTUNNY;cBEE;cPLANE TREE;cVINE;cPAPYRUS;cROSETTE;cLILY;cOX BACK;cFLUTE;cGRATER",
    "cSTRAINER;cd AXE;cWAVY BAND;cCOMBINING OBLIQUE v"]),
   (0x10280, [
    "LYCIAN a A;bE;bB;bBH;bG;bD;bI;bW;bZ;bTH;bJ;bK;bQ;bL;bM;bN;bMM;bNN;bU;bP;bKK;bR;bS;bT;bTT;bAN",
    "bEN;bH;bX;-3;CARIAN a A;bP2;bD;bL;bUUU;bR;bLD;bA2;bQ;bB;bM;bO;bD2;bT;bSH;bSH2;bS;bC-18;bU;bNN",
    "bX;bN;bTT2;bP;bSS;bI;bE;bUUUU;bK;bK2;bND;bUU;bG;bG2;bST;bST2;bNG;bII;bC-39;bTT;bUUU2;bRR;bMB",
    "bMB2;+2;bLD2;bE2;bUUU3;-15;COPTIC EPACT THOUSANDS MARK;bDIGIT ONE;cTWO;ct;cFOUR;cFIVE;cSIX",
    "cSEVEN;cEIGHT;cNINE;bNUMBER TEN;cTWENTY;cTHIRTY;cFORTY;cFIFTY;cSIXTY;cSEVENTY;cEIGHTY;cNINETY",
    "cONE HUNDRED;cTWO HUNDRED;ct HUNDRED;cFOUR HUNDRED;cFIVE HUNDRED;cSIX HUNDRED;cSEVEN HUNDRED",
    "cEIGHT HUNDRED;cNINE HUNDRED;-4;OLD ITALIC a A;cBE;cKE;cDE;cE;cVE;cZE;cHE;cTHE;cI;cKA;cEL;cEM",
    "cEN;cESH;cO;cPE;cSHE;cKU;cER;cES;cTE;cU;cEKS;cPHE;cKHE;cEF;cERS;cCHE;cII;cUU;cESS",
    "bNUMERAL ONE;cFIVE;cTEN;cFIFTY;-9;ba YE;cNORTHERN TSE;cSOUTHERN TSE;GOTHIC a AHSA;bBAIRKAN",
    "bGIBA;bDAGS;bAIHVUS;bQAIRTHRA;bIUJA;bHAGL;bTHIUTH;bEIS;bKUSMA;bLAGUS;bMANNA;bNAUTHS;bJER",
    "bURUS;bPAIRTHRA;bNINETY;bRAIDA;bSAUIL;bTEIWS;bWINJA;bFAIHU;bIGGWS;bHWAIR;bOTHAL;bNINE HUNDRED",
    "-5;OLD PERMIC a AN;cBUR;cGAI;cDOI;cE;cZHOI;cDZHOI;cZATA;cDZITA;cI;cKOKE;cLEI;cMENOE;cNENOE",
    "cVOOI;cPEEI;cREI;cSII;cTAI;cU;cCHERY;cSHOOI;cSHCHOOI;cYRY;cYERU;cO;cOO;cEF;cHA;cTSIU;cVER",
    "cYER;cYERI;cYAT;cIE;cYU;cYA;cIA;COMBINING OLD PERMIC a AN;dDOI;dZATA;dNENOE;dSII;-5",
    "UGARITIC a ALPA;bBETA;bGAMLA;bKHA;bDELTA;bHO;bWO;bZETA;bHOTA;bTET;bYOD;bKAF;bSHIN;bLAMDA;bMEM",
    "bDHAL;bNUN;bZU;bSAMKA;bAIN;bPU;bSADE;bQOPA;bRASHA;bTHANNA;bGHAIN;bTO;bI;bU;bSSU;-1",
    "aWORD DIVIDER;OLD PERSIAN g A;cI;cU;cKA;cKU;cGA;cGU;cXA;cCA;cJA;cJI;cTA;cTU;cDA;cDI;cDU;cTHA",
    "cPA;cBA;cFA;cNA;cNU;cMA;cMI;cMU;cYA;cVA;cVI;cRA;cRU;cLA;cSA;cZA;cSHA;cSSA;cHA;-4;cAURAMAZDAA",
    "cAURAMAZDAA-2;cAURAMAZDAAHA;cXSHAAYATHIYA;cDAHYAAUSH;cDAHYAAUSH-2;cBAGA;cBUUMISH",
    "bWORD DIVIDER;bNUMBER ONE;cTWO;cTEN;cTWENTY;cHUNDRED"]),
   (0x10400, [
    "DESERET c a LONG I;dE;dA;dAH;dO;dOO;cSHORT I;dE;dA;dAH;dO;dOO;cAY;cOW;cWU;cYEE;cH;cPEE;cBEE",
    "cTEE;cDEE;cCHEE;cJEE;cKAY;cGAY;cEF;cVEE;cETH;cTHEE;cES;cZEE;cESH;cZHEE;cER;cEL;cEM;cEN;cENG",
    "cOI;cEW;ad a LONG I;dE;dA;dAH;dO;dOO;cSHORT I;dE;dA;dAH;dO;dOO;cAY;cOW;cWU;cYEE;cH;cPEE;cBEE",
    "cTEE;cDEE;cCHEE;cJEE;cKAY;cGAY;cEF;cVEE;cETH;cTHEE;cES;cZEE;cESH;cZHEE;cER;cEL;cEM;cEN;cENG",
    "cOI;cEW;SHAVIAN a PEEP;bTOT;bKICK;bFEE;bTHIGH;bSO;bSURE;bCHURCH;bYEA;bHUNG;bBIB;bDEAD;bGAG",
    "bVOW;bTHEY;bZOO;bMEASURE;bJUDGE;bWOE;bHA-HA;bLOLL;bMIME;bIF;bEGG;bASH;bADO;bON;bWOOL;bOUT;bAH",
    "bROAR;bNUN;bEAT;bAGE;bICE;bUP;bOAK;bOOZE;bOIL;bAWE;bARE;bOR;bAIR;bERR;bARRAY;bEAR;bIAN;bYEW",
    "OSMANYA a ALEF;bBA;bTA;bJA;bXA;bKHA;bDEEL;bRA;bSA;bSHIIN;bDHA;bCAYN;bGA;bFA;bQAAF;bKAAF;bLAAN",
    "bMIIN;bNUUN;bWAW;bHA;bYA;bA;bE;bI;bO;bU;bAA;bEE;bOO;-2;aDIGIT ZERO;bONE;bTWO;bt;bFOUR;bFIVE",
    "bSIX;bSEVEN;bEIGHT;bNINE;-6;OSAGE c a A;cAI;cAIN;cAH;cBRA;cCHA;cEHCHA;cE;cEIN;cHA;cHYA;cI;cKA",
    "cEHKA;cKYA;cLA;cMA;cNA;cO;cOIN;cPA;cEHPA;cSA;cSHA;cTA;cEHTA;cTSA;cEHTSA;cTSHA;cDHA;cU;cWA",
    "cKHA;cGHA;cZA;cZHA;-4;ad a A;cAI;cAIN;cAH;cBRA;cCHA;cEHCHA;cE;cEIN;cHA;cHYA;cI;cKA;cEHKA;cKYA",
    "cLA;cMA;cNA;cO;cOIN;cPA;cEHPA;cSA;cSHA;cTA;cEHTA;cTSA;cEHTSA;cTSHA;cDHA;cU;cWA;cKHA;cGHA;cZA",
    "cZHA;-4;ELBASAN a A;bBE;bCE;bCHE;bDE;bNDE;bDHE;bEI;bE;bFE;bGE;bGJE;bHE;bI;bJE;bKE;bLE;bLLE",
    "bME;bNE;bNA;bNJE;bO;bPE;bQE;bRE;bRRE;bSE;bSHE;bTE;bTHE;bU;bVE;bXE;bY;bZE;bZHE;bGHE;bGHAMMA",
    "bKHE;-8;CAUCASIAN ALBANIAN a ALT;cBET;cGIM;cDAT;cEB;cZARL;cEYN;cZHIL;cTAS;cCHA;cYOWD;cZHA",
    "cIRB;cSHA;cLAN;cINYA;cXEYN;cDYAN;cCAR;cJHOX;cKAR;cLYIT;cHEYT;cQAY;cAOR;cCHOY;cCHI;cCYAY;cMAQ",
    "cQAR;cNOWC;cDZYAY;cSHAK;cJAYN;cON;cTYAY;cFAM;cDZAY;cCHAT;cPEN;cGHEYS;cRAT;cSEYK;cVEYZ;cTIWR",
    "cSHOY;cIWN;cCYAW;cCAYN;cYAYD;cPIWR;cKIW;-11;bCITATION MARK;VITHKUQI c a A;cBBE;cBE;cCE;cCHE",
    "cDE;cDHE;cEI;cE;cFE;cGA;-1;cHA;cHHA;cI;cIJE;cJE;cKA;cLA;cLLA;cME;cNE;cNJE;cO;cPE;cQA;cRE;-1",
    "cSE;cSHE;cTE;cTHE;cU;cVE;cXE;-1;cY;cZE;-1;ad a A;cBBE;cBE;cCE;cCHE;cDE;cDHE;cEI;cE;cFE;cGA;-1",
    "cHA;cHHA;cI;cIJE;cJE;cKA;cLA;cLLA;cME;cNE;cNJE;cO;cPE;cQA;cRE;-1;cSE;cSHE;cTE;cTHE;cU;cVE;cXE",
    "-1;cY;cZE"]),
   (0x10600, [
    "LINEAR A g AB001;+10;cAB013;cAB016;cAB017;cAB020;cAB021;cAB021F;cAB021M;cAB022;cAB022F",
    "cAB022M;cAB023;cAB023M;cAB024;cAB026;+2;cA028B;cAB029;+2;cAB034;cAB037;+4;cAB044;+7;cAB053;+8",
    "cAB065;+2;cAB069;cAB070;cAB073;cAB074;cAB076;+6;cAB085;+2;cA100-102;cAB118;cAB120;cA120B",
    "cAB122;cAB123;cAB131A;cAB131B;cA131C;cAB164;cAB171;cAB180;cAB188;cAB191;cA301;+7;cA309A",
    "cA309B;cA309C;cA310;+2;cA313A;cA313B;cA313C;cA314;+57;cA400-VAS;cA401-VAS;cA402-VAS;cA403-VAS",
    "cA404-VAS;cA405-VAS;cA406-VAS;cA407-VAS;cA408-VAS;cA409-VAS;cA410-VAS;cA411-VAS;cA412-VAS",
    "cA413-VAS;cA414-VAS;cA415-VAS;cA416-VAS;cA417-VAS;cA418-VAS;cA501;+5;cA508;+5;cA515;cA516",
    "cA520;cA521;cA523;+9;cA534;+8;cA545;cA547;+10;cA559;cA563;+3;cA568;+21;cA591;cA592;cA594;+2",
    "cA598;cA600;+4;cA606;cA608;+16;cA626;+3;cA634;cA637;cA638;cA640;cA642;+4;cA648;cA649;cA651",
    "+13;-9;cA701 A;cA702 B;cA703 D;cA704 E;cA705 F;cA706 H;cA707 J;cA708 K;cA709 L;cA709-2 L2",
    "cA709-3 L3;cA709-4 L4;cA709-6 L6;cA710 W;cA711 X;cA712 Y;cA713 OMEGA;cA714 ABB;cA715 BB",
    "cA717 DD;cA726 EYYY;cA732 JE;-10;cA800;+7"]),
   (0x10780, [
    "MODIFIER a d c AA;bSUPERSCRIPT TRIANGULAR COLON;cHALF TRIANGULAR COLON;bd AE;cc B;cB b HOOK",
    "-1;cDZ DIGRAPH;eb RETROFLEX HOOK;fCURL;cDEZH DIGRAPH;cD b TAIL;eHOOK;fp TAIL;cREVERSED E",
    "cCLOSED REVERSED OPEN E;cFENG DIGRAPH;cRAMS HORN;cc G;cG b HOOK;cc G b HOOK;cH b v;cc H",
    "cHENG b HOOK;cDOTLESS J b v p HOOK;cLS DIGRAPH;cLZ DIGRAPH;cL b BELT;cc L b BELT",
    "cL b RETROFLEX HOOK p BELT;cLEZH;db RETROFLEX HOOK;cTURNED Y;eb BELT;cO b v;cc OE",
    "cCLOSED OMEGA;cQ;cTURNED R b LONG LEG;hp RETROFLEX HOOK;cR b TAIL;eFISHHOOK;cc R",
    "cTC DIGRAPH b CURL;cTS DIGRAPH;eb RETROFLEX HOOK;cTESH DIGRAPH;cT b RETROFLEX HOOK",
    "cV b h HOOK;-1;cc Y;bGLOTTAL STOP b v;bREVERSED GLOTTAL STOP b v;bBILABIAL CLICK",
    "bDENTAL CLICK;bLATERAL CLICK;bALVEOLAR CLICK;bRETROFLEX CLICK b RETROFLEX HOOK;bd S b CURL"]),
   (0x10800, [
    "CYPRIOT SYLLABLE A;bE;bI;bO;bU;bJA;-2;bJO;-1;bKA;bKE;bKI;bKO;bKU;bLA;bLE;bLI;bLO;bLU;bMA;bME",
    "bMI;bMO;bMU;bNA;bNE;bNI;bNO;bNU;bPA;bPE;bPI;bPO;bPU;bRA;bRE;bRI;bRO;bRU;bSA;bSE;bSI;bSO;bSU",
    "bTA;bTE;bTI;bTO;bTU;bWA;bWE;bWI;bWO;-1;bXA;bXE;-3;bZA;-2;bZO;IMPERIAL ARAMAIC a ALEPH;cBETH",
    "cGIMEL;cDALETH;cHE;cWAW;cZAYIN;cHETH;cTETH;cYODH;cKAPH;cLAMEDH;cMEM;cNUN;cSAMEKH;cAYIN;cPE",
    "cSADHE;cQOPH;cRESH;cSHIN;cTAW;-1;bSECTION g;bNUMBER ONE;cTWO;ct;cTEN;cTWENTY;cONE HUNDRED",
    "dTHOUSAND;cTEN THOUSAND;PALMYRENE a ALEPH;bBETH;bGIMEL;bDALETH;bHE;bWAW;bZAYIN;bHETH;bTETH",
    "bYODH;bKAPH;bLAMEDH;bMEM;bn NUN;bNUN;bSAMEKH;bAYIN;bPE;bSADHE;bQOPH;bRESH;bSHIN;bTAW",
    "aLEFT-POINTING FLEURON;aRIGHT-POINTING FLEURON;aNUMBER ONE;bTWO;bt;bFOUR;bFIVE;bTEN;bTWENTY",
    "NABATAEAN a n ALEPH;bALEPH;bn BETH;bBETH;bGIMEL;bDALETH;bn HE;bHE;bWAW;bZAYIN;bHETH;bTETH",
    "bn YODH;bYODH;bn KAPH;bKAPH;bn LAMEDH;bLAMEDH;bn MEM;bMEM;bn NUN;bNUN;bSAMEKH;bAYIN;bPE",
    "bSADHE;bQOPH;bRESH;bn SHIN;bSHIN;bTAW;-8;aNUMBER ONE;bTWO;bt;bFOUR;aCRUCIFORM NUMBER FOUR",
    "aNUMBER FIVE;bTEN;bTWENTY;bONE HUNDRED"]),
   (0x108e0, [
    "HATRAN a ALEPH;bBETH;bGIMEL;bDALETH-RESH;bHE;bWAW;bZAYN;bHETH;bTETH;bYODH;bKAPH;bLAMEDH;bMEM",
    "bNUN;bSAMEKH;bAYN;bPE;bSADHE;bQOPH;-1;bSHIN;bTAW;-5;aNUMBER ONE;bFIVE;bTEN;bTWENTY",
    "bONE HUNDRED;PHOENICIAN a ALF;bBET;bGAML;bDELT;bHE;bWAU;bZAI;bHET;bTET;bYOD;bKAF;bLAMD;bMEM",
    "bNUN;bSEMK;bAIN;bPE;bSADE;bQOF;bROSH;bSHIN;bTAU;aNUMBER ONE;bTEN;bTWENTY;bONE HUNDRED;bTWO;bt",
    "-3;aWORD SEPARATOR;LYDIAN a A;bB;bG;bD;bE;bV;bI;bY;bK;bL;bM;bN;bO;bR;bSS;bT;bU;bF;bQ;bS;bTT",
    "bAN;bEN;bLY;bNN;bC;-5;aTRIANGULAR MARK"]),
   (0x10980, [
    "MEROITIC HIEROGLYPHIC a A;cE;cI;cO;cYA;cWA;cBA;cBA-2;cPA;cMA;cNA;cNA-2;cNE;cNE-2;cRA;cRA-2",
    "cLA;cKHA;cHHA;cSA;cSA-2;cSE;cKA;cQA;cTA;cTA-2;cTE;cTE-2;cTO;cDA;bw VIDJ;cVIDJ-2;aCURSIVE a A",
    "cE;cI;cO;cYA;cWA;cBA;cPA;cMA;cNA;cNE;cRA;cLA;cKHA;cHHA;cSA;cARCHAIC SA;cSE;cKA;cQA;cTA;cTE",
    "cTO;cDA;-4;bFRACTION ELEVEN TWELFTHS;cONE HALF;bLOGOGRAM RMT;cIMN;bNUMBER ONE;cTWO;ct;cFOUR",
    "cFIVE;cSIX;cSEVEN;cEIGHT;cNINE;cTEN;cTWENTY;cTHIRTY;cFORTY;cFIFTY;cSIXTY;cSEVENTY;-2",
    "cONE HUNDRED;cTWO HUNDRED;ct HUNDRED;cFOUR HUNDRED;cFIVE HUNDRED;cSIX HUNDRED;cSEVEN HUNDRED",
    "cEIGHT HUNDRED;cNINE HUNDRED;cONE THOUSAND;cTWO THOUSAND;ct THOUSAND;cFOUR THOUSAND",
    "cFIVE THOUSAND;cSIX THOUSAND;cSEVEN THOUSAND;cEIGHT THOUSAND;cNINE THOUSAND;cTEN THOUSAND",
    "cTWENTY THOUSAND;cTHIRTY THOUSAND;cFORTY THOUSAND;cFIFTY THOUSAND;cSIXTY THOUSAND",
    "cSEVENTY THOUSAND;cEIGHTY THOUSAND;cNINETY THOUSAND;cONE HUNDRED THOUSAND",
    "cTWO HUNDRED THOUSAND;ct HUNDRED THOUSAND;cFOUR HUNDRED THOUSAND;cFIVE HUNDRED THOUSAND",
    "cSIX HUNDRED THOUSAND;cSEVEN HUNDRED THOUSAND;cEIGHT HUNDRED THOUSAND;cNINE HUNDRED THOUSAND",
    "bFRACTION ONE TWELFTH;cTWO TWELFTHS;ct TWELFTHS;cFOUR TWELFTHS;cFIVE TWELFTHS;cSIX TWELFTHS",
    "cSEVEN TWELFTHS;cEIGHT TWELFTHS;cNINE TWELFTHS;cTEN TWELFTHS;KHAROSHTHI a A;aVOWEL g I;cU",
    "cVOCALIC R;-1;cE;cO;-5;bLENGTH MARK;ag l RING m;bANUSVARA;bVISARGA;aa KA;bKHA;bGA;bGHA;-1;bCA",
    "bCHA;bJA;-1;bNYA;bTTA;bTTHA;bDDA;bDDHA;bNNA;bTA;bTHA;bDA;bDHA;bNA;bPA;bPHA;bBA;bBHA;bMA;bYA",
    "bRA;bLA;bVA;bSHA;bSSA;bSA;bZA;bHA;bKKA;bTTTHA;bTTTA;bVHA;-2;ag BAR i;bCAUDA;bDOT m;-4;aVIRAMA",
    "aDIGIT ONE;bTWO;bt;bFOUR;aNUMBER TEN;bTWENTY;bONE HUNDRED;cTHOUSAND;aFRACTION ONE HALF;-7",
    "aPUNCTUATION DOT;bd CIRCLE;bCIRCLE;bCRESCENT BAR;bMANGALAM;bLOTUS;bDANDA;bl DANDA;bLINES;-7",
    "OLD SOUTH ARABIAN a HE;dLAMEDH;dHETH;dMEM;dQOPH;dWAW;dSHIN;dRESH;dBETH;dTAW;dSAT;dKAPH;dNUN",
    "dKHETH;dSADHE;dSAMEKH;dFE;dALEF;dAYN;dDHADHE;dGIMEL;dDALETH;dGHAYN;dTETH;dZAYN;dDHALETH;dYODH",
    "dTHAW;dTHETH;cNUMBER ONE;dFIFTY;cNUMERIC INDICATOR;aNORTH ARABIAN a HEH;dLAM;dHAH;dMEEM;dQAF",
    "dWAW;dES-2;dREH;dBEH;dTEH;dES-1;dKAF;dNOON;dKHAH;dSAD;dES-3;dFEH;dALEF;dAIN;dDAD;dGEEM;dDAL",
    "dGHAIN;dTAH;dZAIN;dTHAL;dYEH;dTHEH;dZAH;cNUMBER ONE;dTEN;dTWENTY"]),
   (0x10ac0, [
    "MANICHAEAN a ALEPH;bBETH;bBHETH;bGIMEL;bGHIMEL;bDALETH;bHE;bWAW;ag UD;aa ZAYIN;bZHAYIN;bJAYIN",
    "bJHAYIN;bHETH;bTETH;bYODH;bKAPH;bXAPH;bKHAPH;bLAMEDH;bDHAMEDH;bTHAMEDH;bMEM;bNUN;bSAMEKH",
    "bAYIN;bAAYIN;bPE;bFE;bSADHE;bQOPH;bXOPH;bQHOPH;bRESH;bSHIN;bSSHIN;bTAW;aABBREVIATION MARK i",
    "cm;-4;aNUMBER ONE;bFIVE;bTEN;bTWENTY;bONE HUNDRED;aPUNCTUATION STAR;bFLEURON",
    "bl DOT WITHIN DOT;bDOT WITHIN DOT;bDOT;bTWO DOTS;bLINE FILLER;-9;AVESTAN a A;bAA;bAO;bAAO;bAN",
    "bAAN;bAE;bAEE;bE;bEE;bO;bOO;bI;bII;bU;bUU;bKE;bXE;bXYE;bXVE;bGE;bGGE;bGHE;bCE;bJE;bTE;bTHE",
    "bDE;bDHE;bTTE;bPE;bFE;bBE;bBHE;bNGE;bNGYE;bNGVE;bNE;bNYE;bNNE;bME;bHME;bYYE;bYE;bVE;bRE;bLE",
    "bSE;bZE;bSHE;bZHE;bSHYE;bSSHE;bHE;-3;aABBREVIATION MARK",
    "TINY TWO DOTS OVER ONE DOT PUNCTUATION;SMALL TWO DOTS OVER ONE DOT PUNCTUATION",
    "LARGE TWO DOTS OVER ONE DOT PUNCTUATION;aONE DOT OVER TWO DOTS PUNCTUATION",
    "aTWO RINGS OVER ONE RING PUNCTUATION;aONE RING OVER TWO RINGS PUNCTUATION",
    "INSCRIPTIONAL PARTHIAN a ALEPH;cBETH;cGIMEL;cDALETH;cHE;cWAW;cZAYIN;cHETH;cTETH;cYODH;cKAPH",
    "cLAMEDH;cMEM;cNUN;cSAMEKH;cAYIN;cPE;cSADHE;cQOPH;cRESH;cSHIN;cTAW;-2;bNUMBER ONE;cTWO;ct",
    "cFOUR;cTEN;cTWENTY;cONE HUNDRED;dTHOUSAND;aPAHLAVI a ALEPH;cBETH;cGIMEL;cDALETH;cHE",
    "cWAW-AYIN-RESH;cZAYIN;cHETH;cTETH;cYODH;cKAPH;cLAMEDH;cMEM-QOPH;cNUN;cSAMEKH;cPE;cSADHE;cSHIN",
    "cTAW;-5;bNUMBER ONE;cTWO;ct;cFOUR;cTEN;cTWENTY;cONE HUNDRED;dTHOUSAND;PSALTER PAHLAVI a ALEPH",
    "cBETH;cGIMEL;cDALETH;cHE;cWAW-AYIN-RESH;cZAYIN;cHETH;cYODH;cKAPH;cLAMEDH;cMEM-QOPH;cNUN",
    "cSAMEKH;cPE;cSADHE;cSHIN;cTAW;-7;bSECTION MARK;bTURNED SECTION MARK;bFOUR DOTS b CROSS;eDOT",
    "-12;bNUMBER ONE;cTWO;ct;cFOUR;cTEN;cTWENTY;cONE HUNDRED"]),
   (0x10c00, [
    "OLD TURKIC a ORKHON A;cYENISEI A;dAE;cORKHON I;cYENISEI I;dE;cORKHON O;dOE;cYENISEI OE",
    "cORKHON AB;cYENISEI AB;cORKHON AEB;cYENISEI AEB;cORKHON AG;cYENISEI AG;cORKHON AEG",
    "cYENISEI AEG;cORKHON AD;cYENISEI AD;cORKHON AED;dEZ;cYENISEI EZ;cORKHON AY;cYENISEI AY",
    "cORKHON AEY;cYENISEI AEY;cORKHON AEK;cYENISEI AEK;cORKHON OEK;cYENISEI OEK;cORKHON AL",
    "cYENISEI AL;cORKHON AEL;dELT;dEM;dAN;dAEN;cYENISEI AEN;cORKHON ENT;cYENISEI ENT;cORKHON ENC",
    "cYENISEI ENC;cORKHON ENY;cYENISEI ENY;dANG;cORKHON ENG;cYENISEI AENG;cORKHON EP;dOP;dIC;dEC",
    "cYENISEI EC;cORKHON AQ;cYENISEI AQ;cORKHON IQ;cYENISEI IQ;cORKHON OQ;cYENISEI OQ;cORKHON AR",
    "cYENISEI AR;cORKHON AER;dAS;dAES;dASH;cYENISEI ASH;cORKHON ESH;cYENISEI ESH;cORKHON AT",
    "cYENISEI AT;cORKHON AET;cYENISEI AET;cORKHON OT;dBASH"]),
   (0x10c80, [
    "OLD HUNGARIAN c a A;dAA;dEB;dAMB;dEC;dENC;dECS;dED;dp;dE;dCLOSE E;dEE;dEF;dEG;dEGY;dEH;dI;dII",
    "dEJ;dEK;dAK;dUNK;dEL;dELY;dEM;dEN;dENY;dO;dOO;dNIKOLSBURG OE;dRUDIMENTA OE;dOEE;dEP;dEMP;dER",
    "dSHORT ER;dES;dESZ;dET;dENT;dETY;dECH;dU;dUU;dNIKOLSBURG UE;dRUDIMENTA UE;dEV;dEZ;dEZS",
    "dENT-SHAPED g;dUS;-13;bd a A;dAA;dEB;dAMB;dEC;dENC;dECS;dED;dp;dE;dCLOSE E;dEE;dEF;dEG;dEGY",
    "dEH;dI;dII;dEJ;dEK;dAK;dUNK;dEL;dELY;dEM;dEN;dENY;dO;dOO;dNIKOLSBURG OE;dRUDIMENTA OE;dOEE",
    "dEP;dEMP;dER;dSHORT ER;dES;dESZ;dET;dENT;dETY;dECH;dU;dUU;dNIKOLSBURG UE;dRUDIMENTA UE;dEV",
    "dEZ;dEZS;dENT-SHAPED g;dUS;-7;bNUMBER ONE;cFIVE;cTEN;cFIFTY;cONE HUNDRED;dTHOUSAND",
    "HANIFI ROHINGYA a A;cBA;cPA;cTA;cTTA;cJA;cCA;cHA;cKHA;cFA;cDA;cDDA;cRA;cRRA;cZA;cSA;cSHA;cKA",
    "cGA;cLA;cMA;cNA;cWA;cKINNA WA;cYA;cKINNA YA;cNGA;cNYA;cVA;bVOWEL A;cI;cU;cE;cO;bMARK SAKIN",
    "cNA KHONNA;bg HARBAHAY;cTAHALA;cTANA;cTASSI;-8;bDIGIT ZERO;cONE;cTWO;ct;cFOUR;cFIVE;cSIX",
    "cSEVEN;cEIGHT;cNINE"]),
   (0x10e60, [
    "RUMI DIGIT ONE;bTWO;bt;bFOUR;bFIVE;bSIX;bSEVEN;bEIGHT;bNINE;aNUMBER TEN;bTWENTY;bTHIRTY",
    "bFORTY;bFIFTY;bSIXTY;bSEVENTY;bEIGHTY;bNINETY;bONE HUNDRED;bTWO HUNDRED;bt HUNDRED",
    "bFOUR HUNDRED;bFIVE HUNDRED;bSIX HUNDRED;bSEVEN HUNDRED;bEIGHT HUNDRED;bNINE HUNDRED",
    "aFRACTION ONE HALF;cQUARTER;cTHIRD;bTWO THIRDS;-1;YEZIDI a ELIF;bBE;bPE;bPHE;bTHE;bSE;bCIM",
    "bCHIM;bCHHIM;bHHA;bXA;bDAL;bZAL;bRA;bRHA;bZA;bJA;bSIN;bSHIN;bSAD;bDAD;bTA;bZE;bEYN;bXHEYN;bFA",
    "bVA;cALTERNATE e;bQAF;bKAF;bKHAF;bGAF;bLAM;bMIM;bNUN;bUM;bWAW;bOW;bEW;bHAY;bYOT;bET;-1",
    "aCOMBINING HAMZA MARK;bMADDA MARK;aHYPHENATION MARK;-2;aa LAM b DOT i;bYOT b CIRCUMFLEX i"]),
   (0x10f00, [
    "OLD SOGDIAN a ALEPH;cn ALEPH;cBETH;cn BETH;cGIMEL;cHE;cn HE;cWAW;cZAYIN;cHETH;cYODH;cKAPH",
    "cLAMEDH;cMEM;cNUN;cn NUN;eb q TAIL;cSAMEKH;cAYIN;cALTERNATE AYIN;cPE;cSADHE;cn SADHE",
    "eb q TAIL;cRESH-AYIN-DALETH;cSHIN;cTAW;cn TAW;eb q TAIL;bNUMBER ONE;cTWO;ct;cFOUR;cFIVE;cTEN",
    "cTWENTY;cTHIRTY;cONE HUNDRED;bFRACTION ONE HALF;bLIGATURE AYIN-DALETH;-8;SOGDIAN a ALEPH",
    "bBETH;bGIMEL;bHE;bWAW;bZAYIN;bHETH;bYODH;bKAPH;bLAMEDH;bMEM;bNUN;bSAMEKH;bAYIN;bPE;bSADHE",
    "bRESH-AYIN;bSHIN;bTAW;bFETH;bLESH;aINDEPENDENT SHIN;aCOMBINING DOT m;bTWO DOTS m;bDOT i",
    "bTWO DOTS i;bCURVE i;cm;bHOOK i;cm;bLONG HOOK m;bRESH m;bv m;aNUMBER ONE;bTEN;bTWENTY",
    "bONE HUNDRED;aPUNCTUATION TWO q BARS;eb DOTS;bCIRCLE b DOT;bTWO CIRCLES b DOTS",
    "bHALF CIRCLE b DOT"]),
   (0x10f70, [
    "OLD UYGHUR a ALEPH;cBETH;cGIMEL-HETH;cWAW;cZAYIN;cn HETH;cYODH;cKAPH;cLAMEDH;cMEM;cNUN",
    "cSAMEKH;cPE;cSADHE;cRESH;cSHIN;cTAW;cLESH;bCOMBINING DOT i;dm;cTWO DOTS i;em;bPUNCTUATION BAR",
    "cTWO BARS;dDOTS;cFOUR DOTS"]),
   (0x10fb0, [
    "CHORASMIAN a ALEPH;bd ALEPH;bBETH;bGIMEL;bDALETH;bHE;bWAW;bCURLED WAW;bZAYIN;bHETH;bYODH",
    "bKAPH;bLAMEDH;bMEM;bNUN;bSAMEKH;bAYIN;bPE;bRESH;bSHIN;bTAW;aNUMBER ONE;bTWO;bt;bFOUR;bTEN",
    "bTWENTY;bONE HUNDRED"]),
   (0x10fe0, [
    "ELYMAIC a ALEPH;bBETH;bGIMEL;bDALETH;bHE;bWAW;bZAYIN;bHETH;bTETH;bYODH;bKAPH;bLAMEDH;bMEM",
    "bNUN;bSAMEKH;bAYIN;bPE;bSADHE;bQOPH;bRESH;bSHIN;bTAW;aLIGATURE ZAYIN-YODH;-9",
    "BRAHMI g CANDRABINDU;bANUSVARA;bVISARGA;bJIHVAMULIYA;bUPADHMANIYA;aa A;bAA;bI;bII;bU;bUU",
    "bVOCALIC R;cRR;cL;cLL;bE;bAI;bO;bAU;bKA;bKHA;bGA;bGHA;bNGA;bCA;bCHA;bJA;bJHA;bNYA;bTTA;bTTHA",
    "bDDA;bDDHA;bNNA;bTA;bTHA;bDA;bDHA;bNA;bPA;bPHA;bBA;bBHA;bMA;bYA;bRA;bLA;bVA;bSHA;bSSA;bSA;bHA",
    "bLLA;bOLD TAMIL LLLA;dRRA;dNNNA;aVOWEL g AA;cBHATTIPROLU AA;cI;cII;cU;cUU;cVOCALIC R;dRR;dL",
    "dLL;cE;cAI;cO;cAU;aVIRAMA;aDANDA;al DANDA;aPUNCTUATION DOT;bl DOT;bLINE;bCRESCENT BAR;bLOTUS",
    "-4;aNUMBER ONE;bTWO;bt;bFOUR;bFIVE;bSIX;bSEVEN;bEIGHT;bNINE;bTEN;bTWENTY;bTHIRTY;bFORTY",
    "bFIFTY;bSIXTY;bSEVENTY;bEIGHTY;bNINETY;bONE HUNDRED;cTHOUSAND;aDIGIT ZERO;bONE;bTWO;bt;bFOUR",
    "bFIVE;bSIX;bSEVEN;bEIGHT;bNINE;ag OLD TAMIL VIRAMA;aa OLD TAMIL SHORT E;eO",
    "aVOWEL g OLD TAMIL SHORT E;fO;aa OLD TAMIL LLA;-9;aNUMBER JOINER;KAITHI g CANDRABINDU",
    "bANUSVARA;bVISARGA;aa A;bAA;bI;bII;bU;bUU;bE;bAI;bO;bAU;bKA;bKHA;bGA;bGHA;bNGA;bCA;bCHA;bJA",
    "bJHA;bNYA;bTTA;bTTHA;bDDA;bDDDHA;bDDHA;bRHA;bNNA;bTA;bTHA;bDA;bDHA;bNA;bPA;bPHA;bBA;bBHA;bMA",
    "bYA;bRA;bLA;bVA;bSHA;bSSA;bSA;bHA;aVOWEL g AA;cI;cII;cU;cUU;cE;cAI;cO;cAU;ag VIRAMA;bNUKTA",
    "aABBREVIATION g;aENUMERATION g;aNUMBER g;aSECTION MARK;al SECTION MARK;aDANDA;al DANDA",
    "aVOWEL g VOCALIC R;-10;aNUMBER g i;-2;SORA SOMPENG a SAH;cTAH;cBAH;cCAH;cDAH;cGAH;cMAH;cNGAH",
    "cLAH;cNAH;cVAH;cPAH;cYAH;cRAH;cHAH;cKAH;cJAH;cNYAH;cAH;cEEH;cIH;cUH;cOH;cEH;cMAE;-7",
    "bDIGIT ZERO;cONE;cTWO;ct;cFOUR;cFIVE;cSIX;cSEVEN;cEIGHT;cNINE;-6;CHAKMA g CANDRABINDU",
    "bANUSVARA;bVISARGA;aa AA;bI;bU;bE;bKAA;bKHAA;bGAA;bGHAA;bNGAA;bCAA;bCHAA;bJAA;bJHAA;bNYAA",
    "bTTAA;bTTHAA;bDDAA;bDDHAA;bNNAA;bTAA;bTHAA;bDAA;bDHAA;bNAA;bPAA;bPHAA;bBAA;bBHAA;bMAA;bYYAA",
    "bYAA;bRAA;bLAA;bWAA;bSAA;bHAA;aVOWEL g A;cI;cII;cU;cUU;cE;cAI;cO;cAU;cOI;aO MARK;aAU MARK",
    "aVIRAMA;aMAAYYAA;-1;aDIGIT ZERO;bONE;bTWO;bt;bFOUR;bFIVE;bSIX;bSEVEN;bEIGHT;bNINE",
    "aSECTION MARK;aDANDA;al DANDA;aQUESTION MARK;aa LHAA;aVOWEL g AA;cEI;aa VAA;-8;MAHAJANI a A",
    "bI;bU;bE;bO;bKA;bKHA;bGA;bGHA;bCA;bCHA;bJA;bJHA;bNYA;bTTA;bTTHA;bDDA;bDDHA;bNNA;bTA;bTHA;bDA",
    "bDHA;bNA;bPA;bPHA;bBA;bBHA;bMA;bRA;bLA;bVA;bSA;bHA;bRRA;ag NUKTA;aABBREVIATION g",
    "aSECTION MARK;aLIGATURE SHRI;-9;SHARADA g CANDRABINDU;bANUSVARA;bVISARGA;aa A;bAA;bI;bII;bU",
    "bUU;bVOCALIC R;cRR;cL;cLL;bE;bAI;bO;bAU;bKA;bKHA;bGA;bGHA;bNGA;bCA;bCHA;bJA;bJHA;bNYA;bTTA",
    "bTTHA;bDDA;bDDHA;bNNA;bTA;bTHA;bDA;bDHA;bNA;bPA;bPHA;bBA;bBHA;bMA;bYA;bRA;bLA;bLLA;bVA;bSHA",
    "bSSA;bSA;bHA;aVOWEL g AA;cI;cII;cU;cUU;cVOCALIC R;dRR;dL;dLL;cE;cAI;cO;cAU;ag VIRAMA",
    "bAVAGRAHA;bJIHVAMULIYA;bUPADHMANIYA;aOM;aDANDA;al DANDA;aABBREVIATION g;aSEPARATOR",
    "aSANDHI MARK;ag NUKTA;aVOWEL MODIFIER MARK;aEXTRA SHORT VOWEL MARK;aSUTRA MARK",
    "aVOWEL g PRISHTHAMATRA E;ag INVERTED CANDRABINDU;aDIGIT ZERO;bONE;bTWO;bt;bFOUR;bFIVE;bSIX",
    "bSEVEN;bEIGHT;bNINE;aEKAM;ag SIDDHAM;aHEADSTROKE;aCONTINUATION g;aSECTION MARK-1;bMARK-2;-1",
    "SINHALA ARCHAIC DIGIT ONE;cTWO;ct;cFOUR;cFIVE;cSIX;cSEVEN;cEIGHT;cNINE;bNUMBER TEN;cTWENTY",
    "cTHIRTY;cFORTY;cFIFTY;cSIXTY;cSEVENTY;cEIGHTY;cNINETY;cONE HUNDRED;dTHOUSAND;-11;KHOJKI a A",
    "bAA;bI;bU;bE;bAI;bO;bAU;bKA;bKHA;bGA;bGGA;bGHA;bNGA;bCA;bCHA;bJA;bJJA;-1;bNYA;bTTA;bTTHA;bDDA",
    "bDDHA;bNNA;bTA;bTHA;bDA;bDDDA;bDHA;bNA;bPA;bPHA;bBA;bBBA;bBHA;bMA;bYA;bRA;bLA;bVA;bSA;bHA",
    "bLLA;aVOWEL g AA;cI;cII;cU;cE;cAI;cO;cAU;ag ANUSVARA;bVIRAMA;bNUKTA;bSHADDA;aDANDA;al DANDA",
    "aWORD SEPARATOR;aSECTION MARK;al SECTION MARK;aABBREVIATION g;ag SUKUN"]),
   (0x11280, [
    "MULTANI a A;bI;bU;bE;bKA;bKHA;bGA;-1;bGHA;-1;bCA;bCHA;bJA;bJJA;-1;bNYA;bTTA;bTTHA;bDDA;bDDDA",
    "bDDHA;bNNA;bTA;bTHA;bDA;bDHA;bNA;bPA;bPHA;bBA;-1;bBHA;bMA;bYA;bRA;bLA;bVA;bSA;bHA;bRRA;bRHA",
    "aSECTION MARK;-6;KHUDAWADI a A;bAA;bI;bII;bU;bUU;bE;bAI;bO;bAU;bKA;bKHA;bGA;bGGA;bGHA;bNGA",
    "bCA;bCHA;bJA;bJJA;bJHA;bNYA;bTTA;bTTHA;bDDA;bDDDA;bRRA;bDDHA;bNNA;bTA;bTHA;bDA;bDHA;bNA;bPA",
    "bPHA;bBA;bBBA;bBHA;bMA;bYA;bRA;bLA;bVA;bSHA;bSA;bHA;ag ANUSVARA;aVOWEL g AA;cI;cII;cU;cUU;cE",
    "cAI;cO;cAU;ag NUKTA;bVIRAMA;-5;aDIGIT ZERO;bONE;bTWO;bt;bFOUR;bFIVE;bSIX;bSEVEN;bEIGHT;bNINE",
    "-6;GRANTHA g COMBINING ANUSVARA i;bCANDRABINDU;bANUSVARA;bVISARGA;-1;aa A;bAA;bI;bII;bU;bUU",
    "bVOCALIC R;cL;-2;bEE;bAI;-2;bOO;bAU;bKA;bKHA;bGA;bGHA;bNGA;bCA;bCHA;bJA;bJHA;bNYA;bTTA;bTTHA",
    "bDDA;bDDHA;bNNA;bTA;bTHA;bDA;bDHA;bNA;-1;bPA;bPHA;bBA;bBHA;bMA;bYA;bRA;-1;bLA;bLLA;-1;bVA",
    "bSHA;bSSA;bSA;bHA;-1;COMBINING BINDU m;GRANTHA g NUKTA;bAVAGRAHA;aVOWEL g AA;cI;cII;cU;cUU",
    "cVOCALIC R;dRR;-2;cEE;cAI;-2;cOO;cAU;ag VIRAMA;-2;aOM;-6;aAU LENGTH MARK;-5;ag PLUTA",
    "aa VEDIC ANUSVARA;cl ANUSVARA;bVOCALIC RR;cLL;aVOWEL g VOCALIC L;dLL;-2",
    "COMBINING GRANTHA DIGIT ZERO;cONE;cTWO;ct;cFOUR;cFIVE;cSIX;-3;ba A;cKA;cNA;cVI;cPA"]),
   (0x11400, [
    "NEWA a A;bAA;bI;bII;bU;bUU;bVOCALIC R;cRR;cL;cLL;bE;bAI;bO;bAU;bKA;bKHA;bGA;bGHA;bNGA;bNGHA",
    "bCA;bCHA;bJA;bJHA;bNYA;bNYHA;bTTA;bTTHA;bDDA;bDDHA;bNNA;bTA;bTHA;bDA;bDHA;bNA;bNHA;bPA;bPHA",
    "bBA;bBHA;bMA;bMHA;bYA;bRA;bRHA;bLA;bLHA;bWA;bSHA;bSSA;bSA;bHA;aVOWEL g AA;cI;cII;cU;cUU",
    "cVOCALIC R;dRR;dL;dLL;cE;cAI;cO;cAU;ag VIRAMA;bCANDRABINDU;bANUSVARA;bVISARGA;bNUKTA",
    "bAVAGRAHA;bn ANUSVARA;aOM;aSIDDHI;aDANDA;al DANDA;aCOMMA;aGAP FILLER;aABBREVIATION g",
    "aDIGIT ZERO;bONE;bTWO;bt;bFOUR;bFIVE;bSIX;bSEVEN;bEIGHT;bNINE;al COMMA;aPLACEHOLDER MARK;-1",
    "aINSERTION g;aSANDHI MARK;aa VEDIC ANUSVARA;ag JIHVAMULIYA;bUPADHMANIYA"]),
   (0x11480, [
    "TIRHUTA ANJI;aa A;bAA;bI;bII;bU;bUU;bVOCALIC R;cRR;cL;cLL;bE;bAI;bO;bAU;bKA;bKHA;bGA;bGHA",
    "bNGA;bCA;bCHA;bJA;bJHA;bNYA;bTTA;bTTHA;bDDA;bDDHA;bNNA;bTA;bTHA;bDA;bDHA;bNA;bPA;bPHA;bBA",
    "bBHA;bMA;bYA;bRA;bLA;bVA;bSHA;bSSA;bSA;bHA;aVOWEL g AA;cI;cII;cU;cUU;cVOCALIC R;dRR;dL;dLL;cE",
    "cSHORT E;cAI;cO;cSHORT O;cAU;ag CANDRABINDU;bANUSVARA;bVISARGA;bVIRAMA;bNUKTA;bAVAGRAHA",
    "aGVANG;aABBREVIATION g;aOM;-8;aDIGIT ZERO;bONE;bTWO;bt;bFOUR;bFIVE;bSIX;bSEVEN;bEIGHT;bNINE"]),
   (0x11580, [
    "SIDDHAM a A;bAA;bI;bII;bU;bUU;bVOCALIC R;cRR;cL;cLL;bE;bAI;bO;bAU;bKA;bKHA;bGA;bGHA;bNGA;bCA",
    "bCHA;bJA;bJHA;bNYA;bTTA;bTTHA;bDDA;bDDHA;bNNA;bTA;bTHA;bDA;bDHA;bNA;bPA;bPHA;bBA;bBHA;bMA;bYA",
    "bRA;bLA;bVA;bSHA;bSSA;bSA;bHA;aVOWEL g AA;cI;cII;cU;cUU;cVOCALIC R;dRR;-2;cE;cAI;cO;cAU",
    "ag CANDRABINDU;bANUSVARA;bVISARGA;bVIRAMA;bNUKTA;bSIDDHAM;aDANDA;al DANDA;aSEPARATOR DOT;bBAR",
    "aREPETITION MARK-1;+2;aEND OF TEXT MARK;aSECTION MARK b TRIDENT p U-SHAPED ORNAMENTS",
    "fDOTTED CRESCENTS;dRAYS p DOTTED CRESCENTS;gl CRESCENTS;gTRIPLE CRESCENTS;cl RING;eb RAYS",
    "cb l CRESCENTS;dTRIPLE CRESCENTS;dQUADRUPLE CRESCENTS;dSEPTUPLE CRESCENTS;dCIRCLES p RAYS",
    "fTWO ENCLOSURES;fFOUR ENCLOSURES;aa THREE-CIRCLE ALTERNATE I;bTWO-CIRCLE ALTERNATE I;dII",
    "bALTERNATE U;aVOWEL g ALTERNATE U;dUU"]),
   (0x11600, [
    "MODI a A;bAA;bI;bII;bU;bUU;bVOCALIC R;cRR;cL;cLL;bE;bAI;bO;bAU;bKA;bKHA;bGA;bGHA;bNGA;bCA",
    "bCHA;bJA;bJHA;bNYA;bTTA;bTTHA;bDDA;bDDHA;bNNA;bTA;bTHA;bDA;bDHA;bNA;bPA;bPHA;bBA;bBHA;bMA;bYA",
    "bRA;bLA;bVA;bSHA;bSSA;bSA;bHA;bLLA;aVOWEL g AA;cI;cII;cU;cUU;cVOCALIC R;dRR;dL;dLL;cE;cAI;cO",
    "cAU;ag ANUSVARA;bVISARGA;bVIRAMA;bARDHACANDRA;aDANDA;al DANDA;aABBREVIATION g;ag HUVA;-11",
    "aDIGIT ZERO;bONE;bTWO;bt;bFOUR;bFIVE;bSIX;bSEVEN;bEIGHT;bNINE;-6;MONGOLIAN BIRGA b ORNAMENT",
    "aROTATED BIRGA;al BIRGA b ORNAMENT;aTRIPLE BIRGA b ORNAMENT;aBIRGA b l ORNAMENT",
    "aROTATED BIRGA b ORNAMENT;dl ORNAMENT;aINVERTED BIRGA;cb l ORNAMENT;aSWIRL BIRGA;cb ORNAMENT",
    "dl ORNAMENT;aTURNED SWIRL BIRGA b l ORNAMENT"]),
   (0x11680, [
    "TAKRI a A;bAA;bI;bII;bU;bUU;bE;bAI;bO;bAU;bKA;bKHA;bGA;bGHA;bNGA;bCA;bCHA;bJA;bJHA;bNYA;bTTA",
    "bTTHA;bDDA;bDDHA;bNNA;bTA;bTHA;bDA;bDHA;bNA;bPA;bPHA;bBA;bBHA;bMA;bYA;bRA;bLA;bVA;bSHA;bSA",
    "bHA;bRRA;ag ANUSVARA;bVISARGA;aVOWEL g AA;cI;cII;cU;cUU;cE;cAI;cO;cAU;ag VIRAMA;bNUKTA",
    "aa ARCHAIC KHA;aABBREVIATION g;-6;aDIGIT ZERO;bONE;bTWO;bt;bFOUR;bFIVE;bSIX;bSEVEN;bEIGHT",
    "bNINE"]),
   (0x11700, [
    "AHOM a KA;bKHA;bNGA;bNA;bTA;bALTERNATE TA;bPA;bPHA;bBA;bMA;bJA;bCHA;bTHA;bRA;bLA;bSA;bNYA;bHA",
    "bA;bDA;bDHA;bGA;bALTERNATE GA;bGHA;bBHA;bJHA;bALTERNATE BA;-2;aCONSONANT g MEDIAL LA;dRA",
    "dLIGATING RA;aVOWEL g A;cAA;cI;cII;cU;cUU;cE;cAW;cO;cAI;cAM;ag KILLER;-4;aDIGIT ZERO;bONE",
    "bTWO;bt;bFOUR;bFIVE;bSIX;bSEVEN;bEIGHT;bNINE;aNUMBER TEN;bTWENTY;ag d SECTION;bSECTION;bRULAI",
    "aw VI;aa CA;bTTA;bTTHA;bDDA;bDDHA;bNNA;bLLA"]),
   (0x11800, [
    "DOGRA a A;bAA;bI;bII;bU;bUU;bE;bAI;bO;bAU;bKA;bKHA;bGA;bGHA;bNGA;bCA;bCHA;bJA;bJHA;bNYA;bTTA",
    "bTTHA;bDDA;bDDHA;bNNA;bTA;bTHA;bDA;bDHA;bNA;bPA;bPHA;bBA;bBHA;bMA;bYA;bRA;bLA;bVA;bSHA;bSSA",
    "bSA;bHA;bRRA;aVOWEL g AA;cI;cII;cU;cUU;cVOCALIC R;dRR;cE;cAI;cO;cAU;ag ANUSVARA;bVISARGA",
    "bVIRAMA;bNUKTA;aABBREVIATION g"]),
   (0x118a0, [
    "WARANG CITI c a NGAA;dA;dWI;dYU;dYA;dYO;dII;dUU;dE;dO;dANG;dGA;dKO;dENY;dYUJ;dUC;dENN;dODD",
    "dTTE;dNUNG;dDA;dAT;dAM;dBU;dPU;dHIYO;dHOLO;dHORR;dHAR;dSSUU;dSII;dVIYO;bd a NGAA;dA;dWI;dYU",
    "dYA;dYO;dII;dUU;dE;dO;dANG;dGA;dKO;dENY;dYUJ;dUC;dENN;dODD;dTTE;dNUNG;dDA;dAT;dAM;dBU;dPU",
    "dHIYO;dHOLO;dHORR;dHAR;dSSUU;dSII;dVIYO;bDIGIT ZERO;cONE;cTWO;ct;cFOUR;cFIVE;cSIX;cSEVEN",
    "cEIGHT;cNINE;bNUMBER TEN;cTWENTY;cTHIRTY;cFORTY;cFIFTY;cSIXTY;cSEVENTY;cEIGHTY;cNINETY;-12",
    "bOM;DIVES AKURU a A;cAA;cI;cII;cU;cUU;cE;-2;cO;-2;cKA;cKHA;cGA;cGHA;cNGA;cCA;cCHA;cJA;-1;cNYA",
    "cTTA;-1;cDDA;cDDHA;cNNA;cTA;cTHA;cDA;cDHA;cNA;cPA;cPHA;cBA;cBHA;cMA;cYA;cYYA;cRA;cLA;cVA;cSHA",
    "cSSA;cSA;cHA;cLLA;cZA;bVOWEL g AA;dI;dII;dU;dUU;dE;-1;dAI;dO;-2;bg ANUSVARA;cCANDRABINDU",
    "cHALANTA;bVIRAMA;bPREFIXED NASAL g;bMEDIAL YA;bs RA;bMEDIAL RA;bg NUKTA;bl DANDA;bGAP FILLER",
    "bEND OF TEXT MARK;-9;bDIGIT ZERO;cONE;cTWO;ct;cFOUR;cFIVE;cSIX;cSEVEN;cEIGHT;cNINE"]),
   (0x119a0, [
    "NANDINAGARI a A;bAA;bI;bII;bU;bUU;bVOCALIC R;cRR;-2;bE;bAI;bO;bAU;bKA;bKHA;bGA;bGHA;bNGA;bCA",
    "bCHA;bJA;bJHA;bNYA;bTTA;bTTHA;bDDA;bDDHA;bNNA;bTA;bTHA;bDA;bDHA;bNA;bPA;bPHA;bBA;bBHA;bMA;bYA",
    "bRA;bLA;bVA;bSHA;bSSA;bSA;bHA;bLLA;bRRA;aVOWEL g AA;cI;cII;cU;cUU;cVOCALIC R;dRR;-2;cE;cAI;cO",
    "cAU;ag ANUSVARA;bVISARGA;bVIRAMA;bAVAGRAHA;bSIDDHAM;aHEADSTROKE;aVOWEL g PRISHTHAMATRA E"]),
   (0x11a00, [
    "ZANABAZAR SQUARE a A;bVOWEL g I;dUE;dU;dE;dOE;dO;dAI;dAU;dREVERSED I;cLENGTH MARK;ba KA;cKHA",
    "cGA;cGHA;cNGA;cCA;cCHA;cJA;cNYA;cTTA;cTTHA;cDDA;cDDHA;cNNA;cTA;cTHA;cDA;cDHA;cNA;cPA;cPHA;cBA",
    "cBHA;cMA;cTSA;cTSHA;cDZA;cDZHA;cZHA;cZA;c-A;cYA;cRA;cLA;cVA;cSHA;cSSA;cSA;cHA;cKSSA",
    "bn CONSONANT MARK;bg VIRAMA;cCANDRABINDU;db ORNAMENT;cCANDRA b ORNAMENT;cANUSVARA;cVISARGA",
    "bCLUSTER-INITIAL a RA;bCLUSTER-FINAL a YA;dRA;dLA;dVA;bs HEAD MARK;bCLOSING HEAD MARK",
    "bMARK TSHEG;cSHAD;cl SHAD;cLONG TSHEG;bs DOUBLE-LINED HEAD MARK",
    "bCLOSING DOUBLE-LINED HEAD MARK;bSUBJOINER;-8;SOYOMBO a A;aVOWEL g I;cUE;cU;cE;cO;cOE;cAI;cAU",
    "cVOCALIC R;dL;bLENGTH MARK;aa KA;bKHA;bGA;bGHA;bNGA;bCA;bCHA;bJA;bJHA;bNYA;bTTA;bTTHA;bDDA",
    "bDDHA;bNNA;bTA;bTHA;bDA;bDHA;bNA;bPA;bPHA;bBA;bBHA;bMA;bTSA;bTSHA;bDZA;bZHA;bZA;b-A;bYA;bRA",
    "bLA;bVA;bSHA;bSSA;bSA;bHA;bKSSA;ag JIHVAMULIYA;bUPADHMANIYA;aCLUSTER-INITIAL a RA;cLA;cSHA",
    "cSA;an CONSONANT g G;dK;dNG;dD;dN;dB;dM;dR;dL;dSH;dS;d-A;ag ANUSVARA;bVISARGA",
    "aGEMINATION MARK;aSUBJOINER;aMARK TSHEG;bSHAD;bl SHAD;bPLUTA",
    "aHEAD MARK b MOON p SUN p TRIPLE FLAME;hFLAME;fSUN;aTERMINAL MARK-1;bMARK-2;-13",
    "CANADIAN SYLLABICS NATTILIK HI;cHII;cHO;cHOO;cHA;cHAA;cSHRI;cSHRII;cSHRO;cSHROO;cSHRA;cSHRAA",
    "bSPE;bSPI;bSPO;bSPA;PAU CIN HAU a PA;dKA;dLA;dMA;dDA;dZA;dVA;dNGA;dHA;dGA;dKHA;dSA;dBA;dCA",
    "dTA;dTHA;dNA;dPHA;dRA;dFA;dCHA;dA;dE;dI;dO;dU;dUA;dIA;dn P;eK;eT;eM;eN;eL;eW;eNG;eY",
    "cRISING TONE LONG;dTONE;cSANDHI GLOTTAL STOP;cRISING TONE LONG n;en;cSANDHI GLOTTAL STOP n",
    "dTONE LONG;dTONE;eLONG n;en;cMID-LEVEL TONE;cGLOTTAL STOP VARIANT;cMID-LEVEL TONE LONG n;en",
    "cLOW-FALLING TONE LONG;dTONE;cGLOTTAL STOP;cLOW-FALLING TONE LONG n;en;cGLOTTAL STOP n"]),
   (0x11c00, [
    "BHAIKSUKI a A;bAA;bI;bII;bU;bUU;bVOCALIC R;cRR;cL;-1;bE;bAI;bO;bAU;bKA;bKHA;bGA;bGHA;bNGA;bCA",
    "bCHA;bJA;bJHA;bNYA;bTTA;bTTHA;bDDA;bDDHA;bNNA;bTA;bTHA;bDA;bDHA;bNA;bPA;bPHA;bBA;bBHA;bMA;bYA",
    "bRA;bLA;bVA;bSHA;bSSA;bSA;bHA;aVOWEL g AA;cI;cII;cU;cUU;cVOCALIC R;dRR;dL;-1;cE;cAI;cO;cAU",
    "ag CANDRABINDU;bANUSVARA;bVISARGA;bVIRAMA;bAVAGRAHA;aDANDA;al DANDA;aWORD SEPARATOR",
    "aGAP FILLER-1;bFILLER-2;-10;aDIGIT ZERO;bONE;bTWO;bt;bFOUR;bFIVE;bSIX;bSEVEN;bEIGHT;bNINE",
    "aNUMBER ONE;bTWO;bt;bFOUR;bFIVE;bSIX;bSEVEN;bEIGHT;bNINE;bTEN;bTWENTY;bTHIRTY;bFORTY;bFIFTY",
    "bSIXTY;bSEVENTY;bEIGHTY;bNINETY;aHUNDREDS UNIT MARK;-3;MARCHEN HEAD MARK;aMARK SHAD;aa KA",
    "bKHA;bGA;bNGA;bCA;bCHA;bJA;bNYA;bTA;bTHA;bDA;bNA;bPA;bPHA;bBA;bMA;bTSA;bTSHA;bDZA;bWA;bZHA",
    "bZA;b-A;bYA;bRA;bLA;bSHA;bSA;bHA;bA;-2;aSUBJOINED a KA;cKHA;cGA;cNGA;cCA;cCHA;cJA;cNYA;cTA",
    "cTHA;cDA;cNA;cPA;cPHA;cBA;cMA;cTSA;cTSHA;cDZA;cWA;cZHA;cZA;-1;cYA;cRA;cLA;cSHA;cSA;cHA;cA",
    "aVOWEL g AA;cI;cU;cE;cO;ag ANUSVARA;bCANDRABINDU"]),
   (0x11d00, [
    "MASARAM GONDI a A;cAA;cI;cII;cU;cUU;cE;-1;cAI;cO;-1;cAU;cKA;cKHA;cGA;cGHA;cNGA;cCA;cCHA;cJA",
    "cJHA;cNYA;cTTA;cTTHA;cDDA;cDDHA;cNNA;cTA;cTHA;cDA;cDHA;cNA;cPA;cPHA;cBA;cBHA;cMA;cYA;cRA;cLA",
    "cVA;cSHA;cSSA;cSA;cHA;cLLA;cKSSA;cJNYA;cTRA;bVOWEL g AA;dI;dII;dU;dUU;dVOCALIC R;-3;dE;-1;dAI",
    "dO;-1;dAU;bg ANUSVARA;cVISARGA;cNUKTA;cCANDRA;cHALANTA;bVIRAMA;bREPHA;bRA-KARA;-8;bDIGIT ZERO",
    "cONE;cTWO;ct;cFOUR;cFIVE;cSIX;cSEVEN;cEIGHT;cNINE;-6;GUNJALA GONDI a A;cAA;cI;cII;cU;cUU;-1",
    "cEE;cAI;-1;cOO;cAU;cYA;cVA;cBA;cBHA;cMA;cKA;cKHA;cTA;cTHA;cLA;cGA;cGHA;cDA;cDHA;cNA;cCA;cCHA",
    "cTTA;cTTHA;cLLA;cJA;cJHA;cDDA;cDDHA;cNGA;cPA;cPHA;cHA;cRA;cSA;bVOWEL g AA;dI;dII;dU;dUU;-1",
    "dEE;dAI;-1;dOO;dAU;bg ANUSVARA;cVISARGA;bVIRAMA;bOM;-7;bDIGIT ZERO;cONE;cTWO;ct;cFOUR;cFIVE",
    "cSIX;cSEVEN;cEIGHT;cNINE"]),
   (0x11ee0, [
    "MAKASAR a KA;bGA;bNGA;bPA;bBA;bMA;bTA;bDA;bNA;bCA;bJA;bNYA;bYA;bRA;bLA;bVA;bSA;bA;aANGKA",
    "aVOWEL g I;cU;cE;cO;aPASSIMBANG;aEND OF SECTION"]),
   (0x11fb0, [
    "LISU a YHA;-15;TAMIL FRACTION ONE THREE-HUNDRED-AND-TWENTIETH;cONE-HUNDRED-AND-SIXTIETH",
    "cEIGHTIETH;cSIXTY-FOURTH;cFORTIETH;cTHIRTY-SECOND;bt EIGHTIETHS;cSIXTY-FOURTHS;bONE TWENTIETH",
    "cSIXTEENTH-1;cSIXTEENTH-2;cTENTH;cEIGHTH;bt TWENTIETHS;cSIXTEENTHS;bONE FIFTH;cQUARTER",
    "cHALF-1;cHALF-2;bt QUARTERS;bDOWNSCALING FACTOR KIIZH;ag NEL;bCEVITU;bAAZHAAKKU;bUZHAKKU",
    "bMUUVUZHAKKU;bKURUNI;bPATHAKKU;bMUKKURUNI;bKAACU;bPANAM;bPON;bVARAAKAN;bPAARAM;bKUZHI;bVELI",
    "aWET CULTIVATION g;aDRY CULTIVATION g;aLAND g;aSALT PAN g;aTRADITIONAL CREDIT g;bNUMBER g",
    "aCURRENT g;ap ODD g;aSPENT g;aTOTAL g;aIN POSSESSION g;aSTARTING FROM g;ag MUTHALIYA",
    "bVAKAIYARAA;-13;aPUNCTUATION END OF TEXT;CUNEIFORM g A;cTIMES A;dBAD;dGAN2 TENU;dHA;dIGI",
    "dLAGAR GUNU;dMUSH;dSAG;bA2;bAB;cTIMES ASH2;dDUN3 GUNU;dGAL;dGAN2 TENU;dHA;dIGI GUNU;dIMIN",
    "dLAGAB;dSHESH;dU PLUS U PLUS U;cGUNU;bAB2;cTIMES BALAG;dGAN2 TENU;dME PLUS EN;dSHA3;dTAK4;bAD",
    "bAK;cTIMES ERIN2;dSHITA PLUS GISH;bAL;cTIMES AL;dDIM2;dGISH;dHA;dKAD3;dKI;dSHE;dUSH;bALAN",
    "bALEPH;bAMAR;cTIMES SHE;bAN;cOVER AN;ct TIMES;cPLUS NAGA OPPOSING AN PLUS NAGA;eSQUARED",
    "bANSHE;bAPIN;bARAD;cTIMES KUR;bARKAB;bASAL2;bASH;cZIDA TENU;cKABA TENU",
    "cOVER ASH TUG2 OVER TUG2 TUG2 OVER TUG2 PAP;eOVER ASH;gCROSSING ASH OVER ASH OVER ASH;bASH2",
    "bASHGAB;bBA;bBAD;bBAG3;bBAHAR2;bBAL;cOVER BAL;bBALAG;bBAR;bBARA2;bBI;cTIMES A;dGAR;dIGI GUNU",
    "bBU;cOVER BU AB;eUN;cCROSSING BU;bBULUG;cOVER BULUG;bBUR;bBUR2;bDA;bDAG",
    "cKISIM5 TIMES A PLUS MASH;eAMAR;eBALAG;eBI;eGA;fPLUS MASH;eGI;eGIR2;eGUD;eHA;eIR;fPLUS LU",
    "eKAK;eLA;eLU;fPLUS MASH2;eLUM;eNE;ePAP PLUS PAP;eSI;eTAK4;eU2 PLUS GIR2;eUSH;bDAM;bDAR;bDARA3",
    "bDARA4;bDI;bDIB;bDIM;cTIMES SHE;bDIM2;bDIN;cKASKAL U GUNU DISH;bDISH;bDU;cOVER DU;cGUNU",
    "cSHESHIG;bDUB;cTIMES ESH2;bDUB2;bDUG;bDUGUD;bDUH;bDUN;bDUN3;cGUNU;dGUNU;bDUN4;bDUR2;bE",
    "cTIMES PAP;cOVER E NUN OVER NUN;bE2;cTIMES A PLUS HA PLUS DA;dGAR;dMI;dSAL;dSHE;dU;bEDIN",
    "bEGIR;bEL;bEN;cTIMES GAN2;eTENU;dME;cCROSSING EN;cOPPOSING EN;cSQUARED;bEREN;bERIN2;bESH2",
    "bEZEN;cTIMES A;ePLUS LAL;gTIMES LAL;dAN;dBAD;dDUN3 GUNU;fGUNU;dHA;eGUNU;dIGI GUNU;dKASKAL",
    "eSQUARED;dKU3;dLA;dLAL TIMES LAL;dLI;dLU;dU2;dUD;bGA;cGUNU;bGA2;cTIMES A PLUS DA PLUS HA;fHA",
    "fIGI;dAB2 TENU PLUS TAB;dAN;dASH;dASH2 PLUS GAL;dBAD;dBAR PLUS RA;dBUR;ePLUS RA;dDA;dDI",
    "dDIM TIMES SHE;dDUB;dEL;ePLUS LA;dEN;eTIMES GAN2 TENU;dGAN2 TENU;dGAR;dGI;dGI4;ePLUS A",
    "dGIR2 PLUS SU;dHA PLUS LU PLUS ESH2;dHAL;ePLUS LA;dHI PLUS LI;dHUB2;dIGI GUNU",
    "dISH PLUS HU PLUS ASH;dKAK;dKASKAL;dKID;ePLUS LAL;dKU3 PLUS AN;dLA;dME PLUS EN;dMI;dNUN",
    "eOVER NUN;dPA;dSAL;dSAR;dSHE;ePLUS TUR;dSHID;dSUM;dTAK4;dU;dUD;ePLUS DU;cOVER GA2;bGABA",
    "cCROSSING GABA;bGAD;cOVER GAD GAR OVER GAR;bGAL;cGAD OVER GAD GAR OVER GAR;bGALAM;bGAM;bGAN",
    "bGAN2;cTENU;cOVER GAN2;cCROSSING GAN2;bGAR;bGAR3;bGASHAN;bGESHTIN;cTIMES KUR;bGI;cTIMES E;dU",
    "cCROSSING GI;bGI4;cOVER GI4;cCROSSING GI4;bGIDIM;bGIR2;cGUNU;bGIR3;cTIMES A PLUS IGI",
    "dGAN2 TENU;dIGI;dLU PLUS IGI;dPA;bGISAL;bGISH;cCROSSING GISH;cTIMES BAD;dTAK4;cTENU;bGU",
    "cCROSSING GU;bGU2;cTIMES KAK;eTIMES IGI GUNU;dNUN;dSAL PLUS TUG2;cGUNU;bGUD;cTIMES A PLUS KUR",
    "dKUR;cOVER GUD LUGAL;bGUL;bGUM;cTIMES SHE;bGUR;bGUR7;bGURUN;bGURUSH;bHA;cTENU;cGUNU;bHAL;bHI",
    "cTIMES ASH;dASH2;dBAD;dDISH;dGAD;dKIN;dNUN;dSHE;dU;bHU;bHUB2;cTIMES AN;dHAL;dKASKAL;dLISH;dUD",
    "bHUL2;bI;cA;bIB;bIDIM;cOVER IDIM BUR;eSQUARED;bIG;bIGI;cDIB;cRI",
    "cOVER IGI SHIR OVER SHIR UD OVER UD;cGUNU;bIL;cTIMES GAN2 TENU;bIL2;bIM;cTIMES TAK4",
    "cCROSSING IM;cOPPOSING IM;cSQUARED;bIMIN;bIN;bIR;bISH;bKA;cTIMES A;dAD;ePLUS KU3;dASH2;dBAD",
    "dBALAG;dBAR;dBI;dERIN2;dESH2;dGA;dGAL;dGAN2 TENU;dGAR;ePLUS SHA3 PLUS A;dGI;dGIR2",
    "dGISH PLUS SAR;eCROSSING GISH;dGU;dGUR7;dIGI;dIM;dKAK;dKI;dKID;dLI;dLU;dME;ePLUS DU;fGI;fTE",
    "dMI;ePLUS NUNUZ;dNE;dNUN;dPI;dRU;dSA;dSAR;dSHA;dSHE;dSHID;dSHU;dSIG;dSUHUR;dTAR;dU;dU2;dUD",
    "dUMUM TIMES PA;dUSH;dZI;bKA2;cCROSSING KA2;bKAB;bKAD2;+3;cOVER KAD5;bKAK;cTIMES IGI GUNU;bKAL",
    "cTIMES BAD;cCROSSING KAL;bKAM2;bKAM4;bKASKAL;cLAGAB TIMES U OVER LAGAB TIMES U",
    "cOVER KASKAL LAGAB TIMES U OVER LAGAB TIMES U;bKESH2;bKI;cTIMES BAD;dU;dUD;bKID;bKIN;bKISAL",
    "bKISH;bKISIM5;cOVER KISIM5;bKU;cOVER HI TIMES ASH2 KU OVER HI TIMES ASH2;bKU3;bKU4;cVARIANT e",
    "bKU7;bKUL;cGUNU;bKUN;bKUR;cOPPOSING KUR;bKUSHU2;bKWU318;bLA;bLAGAB;cTIMES A;ePLUS DA PLUS HA",
    "fGAR;fLAL;dAL;dAN;dASH ZIDA TENU;dBAD;dBI;dDAR;dEN;dGA;dGAR;dGUD;ePLUS GUD;dHA;dHAL",
    "dHI TIMES NUN;dIGI GUNU;dIM;ePLUS HA;fLU;dKI;dKIN;dKU3;dKUL;ePLUS HI PLUS A;dLAGAB;dLISH;dLU",
    "dLUL;dME;ePLUS EN;dMUSH;dNE;dSHE PLUS SUM;dSHITA PLUS GISH PLUS ERIN2;gTENU;dSHU2;ePLUS SHU2",
    "dSUM;dTAG;dTAK4;dTE PLUS A PLUS SU PLUS NA;dU;ePLUS A;fU PLUS U;dU2 PLUS ASH;dUD;dUSH",
    "cSQUARED;bLAGAR;cTIMES SHE;ePLUS SUM;cGUNU;dOVER LAGAR GUNU SHE;bLAHSHU;bLAL;cTIMES LAL;bLAM",
    "cTIMES KUR;ePLUS RU;bLI;bLIL;bLIMMU2;bLISH;bLU;cTIMES BAD;bLU2;cTIMES AL;dBAD;dESH2;eTENU",
    "dGAN2 TENU;dHI TIMES BAD;dIM;dKAD2;dKAD3;ePLUS ASH;dKI;dLA PLUS ASH;dLAGAB;dME PLUS EN;dNE",
    "dNU;dSI PLUS ASH;dSIK2 PLUS BU;dTUG2;cTENU;cCROSSING LU2;cOPPOSING LU2;cSQUARED;cSHESHIG;bLU3",
    "bLUGAL;cOVER LUGAL;cOPPOSING LUGAL;cSHESHIG;bLUH;bLUL;bLUM;cOVER LUM;eGAR OVER GAR;bMA",
    "cTIMES TAK4;cGUNU;bMA2;bMAH;bMAR;bMASH;bMASH2;bME;bMES;bMI;bMIN;bMU;cOVER MU;bMUG;cGUNU",
    "bMUNSUB;bMURGU2;bMUSH;cTIMES A;dKUR;dZA;cOVER MUSH;eTIMES A PLUS NA;cCROSSING MUSH;bMUSH3",
    "cTIMES A;ePLUS DI;dDI;cGUNU;bNA;bNA2;bNAGA;cINVERTED;cTIMES SHU TENU;cOPPOSING NAGA;bNAGAR",
    "bNAM NUTILLU;bNAM;bNAM2;bNE;cTIMES A;dUD;cSHESHIG;bNI;cTIMES E;bNI2;bNIM;cTIMES GAN2 TENU",
    "dGAR PLUS GAN2 TENU;bNINDA2;cTIMES AN;dASH;ePLUS ASH;dGUD;dME PLUS GAN2 TENU;dNE;dNUN;dSHE",
    "ePLUS A AN;fASH;gPLUS ASH;dU2 PLUS ASH;dUSH;bNISAG;bNU;bNU11;bNUN;cLAGAR TIMES GAR;eMASH;eSAL",
    "fOVER NUN LAGAR TIMES SAL;eUSH;cTENU;cOVER NUN;cCROSSING NUN;eLAGAR OVER LAGAR;bNUNUZ",
    "cAB2 TIMES ASHGAB;eBI;eDUG;eGUD;eIGI GUNU;eKAD3;eLA;eNE;eSILA3;eU2;cKISIM5 TIMES BI;fU;bPA",
    "bPAD;bPAN;bPAP;bPESH2;bPI;cTIMES A;dAB;dBI;dBU;dE;dI;dIB;dU;dU2;cCROSSING PI;bPIRIG",
    "cTIMES KAL;dUD;dZA;cOPPOSING PIRIG;bRA;bRAB;bRI;bRU;bSA;bSAG NUTILLU;bSAG;cTIMES A;dDU;dDUB",
    "dHA;dKAK;dKUR;dLUM;dMI;dNUN;dSAL;dSHID;dTAB;dU2;dUB;dUM;dUR;dUSH;cOVER SAG;cGUNU;bSAL",
    "cLAGAB TIMES ASH2;bSANGA2;bSAR;bSHA;bSHA3;cTIMES A;dBAD;dGISH;dNE;dSHU2;dTUR;dU;ePLUS A;bSHA6",
    "bSHAB6;bSHAR2;bSHE;cHU;cOVER SHE GAD OVER GAD GAR OVER GAR;eTAB OVER TAB GAR OVER GAR;bSHEG9",
    "bSHEN;bSHESH;bSHESH2;bSHESHLAM;bSHID;cTIMES A;dIM;bSHIM;cTIMES A;dBAL;dBULUG;dDIN;dGAR;dIGI",
    "eGUNU;dKUSHU2;dLUL;dMUG;dSAL;bSHINIG;bSHIR;cTENU;cOVER SHIR BUR OVER BUR;bSHITA;bSHU",
    "cOVER INVERTED SHU;bSHU2;bSHUBUR;bSI;cGUNU;bSIG;bSIG4;cOVER SIG4 SHU2;bSIK2;bSILA3;bSU",
    "cOVER SU;bSUD;bSUD2;bSUHUR;bSUM;bSUMASH;bSUR;bSUR9;bTA;cASTERISK;cTIMES HI;dMI;cGUNU;bTAB",
    "cOVER TAB NI OVER NI DISH OVER DISH;cSQUARED;bTAG;cTIMES BI;dGUD;dSHE;dSHU;dTUG2;dUD;bTAK4",
    "bTAR;bTE;cGUNU;bTI;cTENU;bTIL;bTIR;cTIMES TAK4;cOVER TIR;eGAD OVER GAD GAR OVER GAR;bTU;bTUG2",
    "bTUK;bTUM;bTUR;cOVER TUR ZA OVER ZA;bU;cGUD;cU U;cOVER U PA OVER PA GAR OVER GAR",
    "eSUR OVER SUR;eU REVERSED OVER U REVERSED;bU2;bUB;bUD;cKUSHU2;cTIMES BAD;dMI;dU PLUS U PLUS U",
    "iGUNU;cGUNU;cSHESHIG;dTIMES BAD;bUDUG;bUM;cTIMES LAGAB;dME PLUS DA;dSHA3;dU;bUMBIN;bUMUM",
    "cTIMES KASKAL;dPA;bUN;cGUNU;bUR;cCROSSING UR;cSHESHIG;bUR2;cTIMES A PLUS HA;fNA;dAL;dHA;dNUN",
    "dU2;ePLUS ASH;fBI;bUR4;bURI;bURI3;bURU;cTIMES A;dASHGAB;dBAR;dDUN;dGA;dGAL;dGAN2 TENU;dGAR",
    "dGU;dHA;dIGI;dIM;dISH;dKI;dLUM;dMIN;dPA;dSHE;dSIG4;dTU;dU PLUS GUD;dUD;dURUDA;bURUDA;cTIMES U",
    "bUSH;cTIMES A;dKU;dKUR;dTAK4;bUSHX;bUSH2;bUSHUMX;bUTUKI;bUZ3;cTIMES KASKAL;bUZU;bZA;cTENU",
    "cSQUARED TIMES KUR;bZAG;bZAMX;bZE2;bZI;cOVER ZI;bZI3;bZIB;cKABA TENU;bZIG;bZIZ2;bZU;bZU5",
    "cTIMES A;bZUBUR;bZUM;bKAP ELAMITE;bAB TIMES NUN;bAB2 TIMES A;bAMAR TIMES KUG",
    "bDAG KISIM5 TIMES U2 PLUS MASH;bDAG3;bDISH PLUS SHU;bDUB TIMES SHE;bEZEN TIMES GUD;dSHE",
    "bGA2 TIMES AN PLUS KAK PLUS A;dASH2;bGE22;bGIG;bHUSH;bKA TIMES ANSHE;dASH3;dGISH;dGUD",
    "dHI TIMES ASH2;dLUM;dPA;dSHUL;dTU;dUR2;bLAGAB TIMES GI;bLU2 SHESHIG TIMES BAD",
    "cTIMES ESH2 PLUS LAL;dSHU;bMESH;bMUSH3 TIMES ZA;bNA4;bNIN;bNIN9;bNINDA2 TIMES BAL;dGI",
    "bNU11 ROTATED NINETY DEGREES;bPESH2 ASTERISK;bPIR2;bSAG TIMES IGI GUNU;bTI2;bUM TIMES ME;bU U"]),
   (0x12400, [
    "CUNEIFORM NUMERIC g TWO ASH;ct ASH;cFOUR ASH;cFIVE ASH;cSIX ASH;cSEVEN ASH;cEIGHT ASH",
    "cNINE ASH;ct DISH;cFOUR DISH;cFIVE DISH;cSIX DISH;cSEVEN DISH;cEIGHT DISH;cNINE DISH;cFOUR U",
    "cFIVE U;cSIX U;cSEVEN U;cEIGHT U;cNINE U;cONE GESH2;cTWO GESH2;ct GESH2;cFOUR GESH2",
    "cFIVE GESH2;cSIX GESH2;cSEVEN GESH2;cEIGHT GESH2;cNINE GESH2;cONE GESHU;cTWO GESHU;ct GESHU",
    "cFOUR GESHU;cFIVE GESHU;cTWO SHAR2;ct SHAR2;eVARIANT e;cFOUR SHAR2;cFIVE SHAR2;cSIX SHAR2",
    "cSEVEN SHAR2;cEIGHT SHAR2;cNINE SHAR2;cONE SHARU;cTWO SHARU;ct SHARU;eVARIANT e;cFOUR SHARU",
    "cFIVE SHARU;cSHAR2 TIMES GAL PLUS DISH;gMIN;cONE BURU;cTWO BURU;ct BURU;eVARIANT e;cFOUR BURU",
    "cFIVE BURU;ct VARIANT e ESH16;fESH21;cFOUR VARIANT e LIMMU;fLIMMU4;fLIMMU A;gB",
    "cSIX VARIANT e ASH9;cSEVEN VARIANT e IMIN3;fIMIN A;gB;cEIGHT VARIANT e USSU;fUSSU3",
    "cNINE VARIANT e ILIMMU;fILIMMU3;fILIMMU4;fILIMMU A;cTWO ASH TENU;ct ASH TENU;cFOUR ASH TENU",
    "cFIVE ASH TENU;cSIX ASH TENU;cONE BAN2;cTWO BAN2;ct BAN2;cFOUR BAN2;eVARIANT e;cFIVE BAN2",
    "eVARIANT e;cNIGIDAMIN;cNIGIDAESH;cONE ESHE3;cTWO ESHE3;cONE THIRD DISH;cTWO THIRDS DISH",
    "cFIVE SIXTHS DISH;cONE THIRD VARIANT e A;cTWO THIRDS VARIANT e A;cONE EIGHTH ASH;dQUARTER ASH",
    "cOLD ASSYRIAN ONE SIXTH;fQUARTER;cONE QUARTER GUR;dHALF GUR;cELAMITE ONE THIRD;dTWO THIRDS",
    "dFORTY;dFIFTY;cFOUR U VARIANT e;cFIVE U VARIANT e;cSIX U VARIANT e;cSEVEN U VARIANT e",
    "cEIGHT U VARIANT e;cNINE U VARIANT e;-1;aPUNCTUATION g OLD ASSYRIAN WORD DIVIDER;cq COLON",
    "cDIAGONAL COLON;dTRICOLON;dQUADCOLON;-11;ag AB TIMES NUN TENU;dSHU2;bAD TIMES ESH2",
    "bBAD TIMES DISH TENU;bBAHAR2 TIMES AB2;dNI;dZA;bBU OVER BU TIMES NA2;bDA TIMES TAK4",
    "bDAG TIMES KUR;bDIM TIMES IGI;dU U U;bDIM2 TIMES UD;bDUG TIMES ANSHE;dASH;eAT o;dDIN;dDUN",
    "dERIN2;dGA;dGI;dGIR2 GUNU;dGISH;dHA;dHI;dIGI GUNU;dKASKAL;dKUR;dKUSHU2;ePLUS KASKAL;dLAK-020",
    "dLAM;eTIMES KUR;dLUH PLUS GISH;dMASH;dMES;dMI;dNI;dPI;dSHE;dSI GUNU;bE2 TIMES KUR;dPAP",
    "bERIN2 X;bESH2 CROSSING ESH2;bEZEN SHESHIG TIMES ASH;eHI;eIGI GUNU;eLA;eLAL;eME;eMES;eSU",
    "cTIMES SU;bGA2 TIMES BAHAR2;dDIM GUNU;dDUG TIMES IGI GUNU;fKASKAL;dEREN;dGA;dGAR PLUS DI;fNE",
    "dHA PLUS A;dKUSHU2 PLUS KASKAL;dLAM;eTIMES KUR;dLUH;dMUSH;dNE;ePLUS E2;fGI;dSHIM;dZIZ2",
    "bGABA ROTATED NINETY DEGREES;bGESHTIN TIMES U;bGISH TIMES GISH CROSSING GISH",
    "bGU2 TIMES IGI GUNU;bGUD PLUS GISH TIMES TAK4;bHA TENU GUNU;bHI TIMES ASH OVER HI TIMES ASH",
    "bKA TIMES BU;dKA;dU U U;dUR;bLAGAB TIMES ZU OVER ZU;bLAK-003;bLAK-021;bLAK-025;bLAK-030",
    "bLAK-050;bLAK-051;bLAK-062;bLAK-079 OVER LAK-079 GUNU;bLAK-080;bLAK-081 OVER LAK-081;bLAK-092",
    "bLAK-130;bLAK-142;bLAK-210;bLAK-219;bLAK-220;bLAK-225;bLAK-228;bLAK-238;bLAK-265;bLAK-266",
    "bLAK-343;bLAK-347;bLAK-348;bLAK-383;bLAK-384;bLAK-390;bLAK-441;bLAK-449;cTIMES GU;dIGI",
    "dPAP PLUS LU3;fPAP PLUS LU3;dU2 PLUS BA;bLAK-450;bLAK-457;bLAK-470;bLAK-483;bLAK-490;bLAK-492",
    "bLAK-493;bLAK-495;bLAK-550;bLAK-608;bLAK-617;cTIMES ASH;dBAD;dDUN3 GUNU GUNU;dKU3;dLA;dTAR",
    "dTE;dU2;dUD;dURUDA;bLAK-636;bLAK-648;cTIMES DUB;dGA;dIGI;eGUNU;dNI;dPAP PLUS PAP PLUS LU3",
    "dSHESH PLUS KI;dUD;dURUDA;bLAK-724;bLAK-749;bLU2 GUNU TIMES ASH;cTIMES DISH;dHAL;dPAP",
    "ePLUS PAP PLUS LU3;dTAK4;bMI PLUS ZA7;bMUSH OVER MUSH TIMES GA;fKAK;bNINDA2 TIMES DIM GUNU",
    "dGISH;dGUL;dHI;dKESH2;dLAK-050;dMASH;dPAP PLUS PAP;dU;ePLUS U;dURUDA;bSAG GUNU TIMES HA",
    "cTIMES EN;dSHE AT o;dTAK4;bSHA6 TENU;bSHE OVER SHE;cPLUS HUB2;dNAM2;dSAR",
    "bSHU2 PLUS DUG TIMES NI;dE2 TIMES AN;bSI TIMES TAK4;bTAK4 PLUS SAG;bTUM TIMES GAN2 TENU",
    "dt DISH;bUR2 INVERTED;cTIMES UD;bURU TIMES DARA3;dLAK-668;dLU3;bZA7;bZU OVER ZU PLUS SAR",
    "bZU5 TIMES t DISH TENU"]),
   (0x12f90, [
    "CYPRO-MINOAN g CM001;bCM002;bCM004;+8;bCM012B;bCM013;bCM015;bCM017;bCM019;bCM021;bCM023;+7",
    "bCM033;+8;bCM044;bCM046;bCM047;bCM049;+7;bCM058;+6;bCM066;+9;bCM075B;bCM076;bCM078;+14;bCM094",
    "+11;bCM107;+3;bCM112;bCM114;bCM301;bCM302;-13;EGYPTIAN HIEROGLYPH A001;+4;bA005A;bA006;bA006A",
    "bA006B;bA007;+7;bA014A;bA015;+2;bA017A;bA018;+14;bA032A;bA033;+7;bA040A;bA041;bA042;bA042A",
    "bA043;bA043A;bA044;bA045;bA045A;bA046;+24;bB001;+4;bB005A;bB006;+3;bC001;bC002;bC002A;bC002B",
    "bC002C;bC003;+7;bC010A;bC011;+13;bD001;+7;bD008A;bD009;+18;bD027A;bD028;+3;bD031A;bD032;+2",
    "bD034A;bD035;+11;bD046A;bD047;bD048;bD048A;bD049;bD050;bD050A;bD050B;bD050C;bD050D;bD050E",
    "bD050F;bD050G;bD050H;bD050I;bD051;bD052;bD052A;bD053;bD054;bD054A;bD055;+12;bD067A;bD067B",
    "bD067C;bD067D;bD067E;bD067F;bD067G;bD067H;bE001;+7;bE008A;bE009;bE009A;bE010;+6;bE016A;bE017",
    "bE017A;bE018;+2;bE020A;bE021;+7;bE028A;bE029;+5;bE034A;bE036;+2;bF001;bF001A;bF002;+11;bF013A",
    "bF014;+7;bF021A;bF022;+9;bF031A;bF032;+5;bF037A;bF038;bF038A;bF039;+6;bF045A;bF046;bF046A",
    "bF047;bF047A;bF048;+3;bF051A;bF051B;bF051C;bF052;bF053;bG001;+5;bG006A;bG007;bG007A;bG007B",
    "bG008;+3;bG011A;bG012;+8;bG020A;bG021;+5;bG026A;bG027;+9;bG036A;bG037;bG037A;bG038;+5;bG043A",
    "bG044;bG045;bG045A;bG046;+8;bH001;+5;bH006A;bH007;bH008;bI001;+4;bI005A;bI006;+3;bI009A;bI010",
    "bI010A;bI011;bI011A;bI012;+3;bK001;+7;bL001;bL002;bL002A;bL003;+3;bL006A;bL007;bL008;bM001",
    "bM001A;bM001B;bM002;bM003;bM003A;bM004;+6;bM010A;bM011;bM012;bM012A;bM012B;bM012C;bM012D",
    "bM012E;bM012F;bM012G;bM012H;bM013;+2;bM015A;bM016;bM016A;bM017;bM017A;bM018;+4;bM022A;bM023",
    "bM024;bM024A;bM025;+3;bM028A;bM029;+2;bM031A;bM032;bM033;bM033A;bM033B;bM034;+6;bM040A;bM041",
    "+3;bN001;+17;bN018A;bN018B;bN019;+6;bN025A;bN026;+7;bN033A;bN034;bN034A;bN035;bN035A;bN036",
    "bN037;bN037A;bN038;+4;bNL001;+4;bNL005A;bNL006;+11;bNL017A;bNL018;+2;bNU001;+9;bNU010A;bNU011",
    "bNU011A;bNU012;+6;bNU018A;bNU019;+3;bNU022A;bO001;bO001A;bO002;+3;bO005A;bO006;bO006A;bO006B",
    "bO006C;bO006D;bO006E;bO006F;bO007;+3;bO010A;bO010B;bO010C;bO011;+8;bO019A;bO020;bO020A;bO021",
    "+3;bO024A;bO025;bO025A;bO026;+3;bO029A;bO030;bO030A;bO031;+2;bO033A;bO034;+2;bO036A;bO036B",
    "bO036C;bO036D;bO037;+13;bO050A;bO050B;bO051;bP001;bP001A;bP002;bP003;bP003A;bP004;+7;bQ001;+6",
    "bR001;bR002;bR002A;bR003;bR003A;bR003B;bR004;+6;bR010A;bR011;+5;bR016A;bR017;+12;bS001;bS002",
    "bS002A;bS003;+3;bS006A;bS007;+7;bS014A;bS014B;bS015;+2;bS017A;bS018;+8;bS026A;bS026B;bS027;+8",
    "bS035A;bS036;+10;bT001;+2;bT003A;bT004;+3;bT007A;bT008;bT008A;bT009;bT009A;bT010;bT011;bT011A",
    "bT012;+4;bT016A;bT017;+15;bT032A;bT033;bT033A;bT034;+2;bU001;+5;bU006A;bU006B;bU007;+16",
    "bU023A;bU024;+5;bU029A;bU030;+2;bU032A;bU033;+9;bV001;bV001A;bV001B;bV001C;bV001D;bV001E",
    "bV001F;bV001G;bV001H;bV001I;bV002;bV002A;bV003;+4;bV007A;bV007B;bV008;+3;bV011A;bV011B;bV011C",
    "bV012;bV012A;bV012B;bV013;+7;bV020A;bV020B;bV020C;bV020D;bV020E;bV020F;bV020G;bV020H;bV020I",
    "bV020J;bV020K;bV020L;bV021;+2;bV023A;bV024;+4;bV028A;bV029;bV029A;bV030;bV030A;bV031;bV031A",
    "bV032;bV033;bV033A;bV034;+3;bV037A;bV038;+2;bV040A;bW001;+2;bW003A;bW004;+5;bW009A;bW010",
    "bW010A;bW011;+3;bW014A;bW015;+2;bW017A;bW018;bW018A;bW019;+5;bW024A;bW025;bX001;+3;bX004A",
    "bX004B;bX005;bX006;bX006A;bX007;bX008;bX008A;bY001;bY001A;bY002;+6;bZ001;bZ002;bZ002A;bZ002B",
    "bZ002C;bZ002D;bZ003;bZ003A;bZ003B;bZ004;bZ004A;bZ005;bZ005A;bZ006;+9;bZ015A;bZ015B;bZ015C",
    "bZ015D;bZ015E;bZ015F;bZ015G;bZ015H;bZ015I;bZ016;bZ016A;bZ016B;bZ016C;bZ016D;bZ016E;bZ016F",
    "bZ016G;bZ016H;bAA001;+6;bAA007A;bAA007B;bAA008;+24;-1;bq JOINER;by JOINER",
    "bINSERT AT TOP START;dBOTTOM START;dTOP END;dBOTTOM END;bOVERLAY MIDDLE;bBEGIN SEGMENT",
    "bEND SEGMENT"]),
   (0x14400, [
    "ANATOLIAN HIEROGLYPH A001;+9;bA010A;bA011;+15;bA026A;bA027;+12;bA039A;bA040;bA041;bA041A",
    "bA042;+3;bA045A;bA046;bA046A;bA046B;bA047;+19;bA066A;bA066B;bA066C;bA067;+30;bA097A;bA098",
    "bA098A;bA099;bA100;bA100A;bA101;bA101A;bA102;bA102A;bA103;bA104;bA104A;bA104B;bA104C;bA105",
    "bA105A;bA105B;bA106;bA107;bA107A;bA107B;bA107C;bA108;+2;bA110A;bA110B;bA111;+4;bA115A;bA116",
    "+9;bA125A;bA126;+9;bA135A;bA136;+66;bA202A;bA202B;bA203;+4;bA207A;bA208;bA209;bA209A;bA210;+5",
    "bA215A;bA216;bA216A;bA217;+10;bA227A;bA228;+39;bA267A;bA268;+21;bA289A;bA290;+4;bA294A;bA295",
    "+4;bA299A;bA300;+9;bA309A;bA310;+19;bA329A;bA330;bA331;bA332A;bA332B;bA332C;bA333;+3;bA336A",
    "bA336B;bA336C;bA337;+22;bA359A;bA360;+4;bA364A;bA365;+3;bA368A;bA369;+2;bA371A;bA372;+9",
    "bA381A;bA382;bA383 RA OR RI;bA383A;bA384;+2;bA386A;bA387;+5;bA393 EIGHT;bA394;+15",
    "bA410 BEGIN LOGOGRAM MARK;bA410A END LOGOGRAM MARK;bA411;+39;bA450A;bA451;+6;bA457A;bA458;+39",
    "bA501;+29"]),
   (0x16800, [
    "BAMUM a PHASE-A NGKUE MFON;cGBIEE FON;cPON MFON PIPAEMGBIEE;ePIPAEMBA;cNAA MFON;cSHUENSHUET",
    "cTITA MFON;cNZA MFON;cSHINDA PA NJI;cPON PA NJI PIPAEMGBIEE;fPIPAEMBA;cMAEMBGBIEE;cTU MAEMBA",
    "cNGANGU;cMAEMVEUX;cMANSUAE;cMVEUAENGAM;cSEUNYAM;cNTOQPEN;cKEUKEUTNDA;cNKINDI;cSUU;cNGKUENZEUM",
    "cLAPAQ;cLET KUT;cNTAP MFAA;cMAEKEUP;cPASHAE;cGHEUAERAE;cPAMSHAE;cMON NGGEUAET;cNZUN MEUT",
    "cU YUQ NAE;cGHEUAEGHEUAE;cNTAP NTAA;cSISA;cMGBASA;cMEUNJOMNDEUQ;cMOOMPUQ;cKAFA;cPA LEERAEWA",
    "cNDA LEERAEWA;cPET;cMAEMKPEN;cNIKA;cPUP;cTUAEP;cLUAEP;cSONJAM;cTEUTEUWEN;cMAENYI;cKET",
    "cNDAANGGEUAET;cKUOQ;cMOOMEUT;cSHUM;cLOMMAE;cFIRI;cROM;cKPOQ;cSOQ;cMAP PIEET;cSHIRAE;cNTAP",
    "cSHOQ NSHUT YUM;cNYIT MONGKEUAEQ;cPAARAE;cNKAARAE;cUNKNOWN;cNGGEN;cMAESI;cNJAM;cMBANYI;cNYET",
    "cTEUAEN;cSOT;cPAAM;cNSHIEE;cMAEM;cNYI;cKAQ;cNSHA;cVEE;cLU;cNEN;cNAQ;cMBAQ;bPHASE-B NSHUET",
    "cTU MAEMGBIEE;cSIEE;cSET TU;cLOM NTEUM;cMBA MAELEE;cKIEEM;cYEURAE;cMBAARAE;cKAM;cPEESHI",
    "cYAFU LEERAEWA;cLAM NSHUT NYAM;cNTIEE SHEUOQ;cNDU NJAA;cGHEUGHEUAEM;cPIT;cTU NSIEE;cSHET NJAQ",
    "cSHEUAEQTU;cMFON TEUAEQ;cMBIT MBAAKET;cNYI NTEUM;cKEUPUQ;cGHEUGHEN;cKEUYEUX;cLAANAE;cPARUM",
    "cVEUM;cNGKINDI MVOP;cNGGEU MBU;cWUAET;cSAKEUAE;cTAAM;cMEUQ;cNGGUOQ;dLARGE;cMFIYAQ;cSUE",
    "cMBEURI;cMONTIEEN;cNYAEMAE;cPUNGAAM;cMEUT NGGEET;cFEUX;cMBUOQ;cFEE;cKEUAEM;cMA NJEUAENA",
    "dNJUQA;cLET;cNGGAAM;cNSEN;cMA;cKIQ;cNGOM;bPHASE-C NGKUE MAEMBA;cNZA;cYUM;cWANGKUOQ;cNGGEN",
    "cNDEUAEREE;cNGKAQ;cGHARAE;cMBEEKEET;cGBAYI;cNYIR MKPARAQ MEUN;cNTU MBIT;cMBEUM;cPIRIEEN",
    "cNDOMBU;cMBAA CABBAGE-TREE;cKEUSHEUAEP;cGHAP;cKEUKAQ;cYU MUOMAE;cNZEUM;cMBUE;cNSEUAEN;cMBIT",
    "cYEUQ;cKPARAQ;cKAA;cSEUX;cNDIDA;cTAASHAE;cNJUEQ;cTITA YUE;cSUAET;cNGGUAEN NYAM;cVEUX",
    "cNANSANAQ;cMA KEUAERI;cNTAA;cNGGUON;cLAP;cMBIRIEEN;cMGBASAQ;cNTEUNGBA;cTEUTEUX;cNGGUM;cFUE",
    "cNDEUT;cNSA;cNSHAQ;cBUNG;cVEUAEPEN;cMBERAE;cRU;cNJAEM;cLAM;cTITUAEP;cNSUOT NGOM;cNJEEEE;cKET",
    "cNGGU;cMAESI;cMBUAEM;cLU;cKUT;cNJAM;cNGOM;cWUP;cNGGUEET;cNSOM;cNTEN;cKUOP NKAARAE;cNSUN;cNDAM",
    "cMA NSIEE;cYAA;cNDAP;cSHUEQ;cSETFON;cMBI;cMAEMBA;cMBANYI;cKEUSEUX;cMBEUX;cKEUM;cMBAA PICKET",
    "cYUWOQ;cNJEUX;cMIEE;cMUAE;cSHIQ;cKEN LAW;dFATIGUE;cNGAQ;cNAQ;cLIQ;cPIN;cPEN;cTET",
    "bPHASE-D MBUO;cWAP;cNJI;cMFON;cNJIEE;cLIEE;cNJEUT;cNSHEE;cNGGAAMAE;cNYAM;cWUAEN;cNGKUN;cSHEE",
    "cNGKAP;cKEUAETMEUN;cTEUT;cSHEUAE;cNJAP;cSUE;cKET;cYAEMMAE;cKUOM;cSAP;cMFEUT;cNDEUX;cMALEERI",
    "cMEUT;cSEUAEQ;cYEN;cNJEUAEM;cKEUOT MBUAE;cNGKEURI;cTU;cGHAA;cNGKYEE;cFEUFEUAET;cNDEE;cMGBOFUM",
    "cLEUAEP;cNDON;cMONI;cMGBEUN;cPUUT;cMGBIEE;cMFO;cLUM;cNSIEEP;cMBAA;cKWAET;cNYET;cTEUAEN;cSOT",
    "cYUWOQ;cKEUM;cRAEM;cTEEEE;cNGKEUAEQ;cMFEUAE;cNSIEET;cKEUP;cPIP;cPEUTAE;cNYUE;cLET;cNGGAAM",
    "cMFIEE;cNGGWAEN;cYUOM;cPAP;cYUOP;cNDAM;cNTEUM;cSUAE;cKUN;cNGGEUX;cNGKIEE;cTUOT;cMEUN;cKUQ",
    "cNSUM;cTEUN;cMAENJET;cNGGAP;cLEUM;cNGGUOM;cNSHUT;cNJUEQ;cGHEUAE;cKU;cREN OLD;cTAE;cTOQ;cNYI",
    "cRII;cLEEEE;cMEEEE;cM;cSUU;cMU;cSHII;cSHEUX;cKYEE;cNU;cSHU;cNTEE;cPEE;cNI;cSHOQ;cPUQ;cMVOP",
    "cLOQ;cREN MUCH;cTI;cNTUU;cMBAA SEVEN;cSAQ;cFAA;bPHASE-E NDAP;cTOON;cMBEUM;cLAP;cVOM;cLOON",
    "cPAA;cSOM;cRAQ;cNSHUOP;cNDUN;cPUAE;cTAM;cNGKA;cKPEUX;cWUO;cSEE;cNGGEUAET;cPAAM;cTOO;cKUOP",
    "cLOM;cNSHIEE;cNGOP;cMAEM;cNGKEUX;cNGOQ;cNSHUE;cRIMGBA;cNJEUX;cPEEM;cSAA;cNGGURAE;cMGBA;cGHEUX",
    "cNGKEUAEM;cNJAEMLI;cMAP;cLOOT;cNGGEEEE;cNDIQ;cTAEN NTEUM;cSET;cPUM;cNDAA SOFTNESS",
    "cNGGUAESHAE NYAM;cYIEE;cGHEUN;cTUAE;cYEUAE;cPO;cTUMAE;cKEUAE;cSUAEN;cTEUAEQ;cVEUAE;cWEUX",
    "cLAAM;cPU;cTAAQ;cGHAAMAE;cNGEUREUT;cSHEUAEQ;cMGBEN;cMBEE;cNZAQ;cNKOM;cGBET;cTUM;cKUET;cYAP",
    "cNYI CLEAVER;cYIT;cMFEUQ;cNDIAQ;cPIEEQ;cYUEQ;cLEUAEM;cFUE;cGBEUX;cNGKUP;cKET;cMAE;cNGKAAMI",
    "cGHET;cFA;cNTUM;cPEUT;cYEUM;cNGGEUAE;cNYI BETWEEN;cNZUQ;cPOON;cMIEE;cFUET;cNAE;cMUAE;cGHEUAE",
    "cFU I;cMVI;cPUAQ;cNGKUM;cKUT;cPIET;cNTAP;cYEUAET;cNGGUP;cPA PEOPLE;cFU CALL;cFOM;cNJEE;cA",
    "cTOQ;cO;cI;cLAQ;cPA PLURAL;cTAA;cTAQ;cNDAA MY HOUSE;cSHIQ;cYEUX;cNGUAE;cYUAEN;cYOQ SWIMMING",
    "dCOVER;cYUQ;cYUN;cKEUX;cPEUX;cNJEE EPOCH;cPUE;cWUE;cFEE;cVEE;cLU;cMI;cREUX;cRAE;cNGUAET;cNGA",
    "cSHO;cSHOQ;cFU REMEDY;cNA;cPI;cLOQ;cKO;cMEN;cMA;cMAQ;cTEU;cKI;cMON;cTEN;cFAQ;cGHOM",
    "bPHASE-F KA;cU;cKU;cEE;cREE;cTAE;cNYI;cLA;cRII;cRIEE;cMEEEE;cTAA;cNDAA;cNJAEM;cM;cSUU;cSHII",
    "cSI;cSEUX;cKYEE;cKET;cNUAE;cNU;cNJUAE;cYOQ;cSHU;cYA;cNSHA;cPEUX;cNTEE;cWUE;cPEE;cRU;cNI;cREUX",
    "cKEN;cNGKWAEN;cNGGA;cSHO;cPUAE;cFOM;cWA;cLI;cLOQ;cKO;cMBEN;cREN;cMA;cMO;cMBAA;cTET;cKPA",
    "cSAMBA;cVUEQ;-7;MRO a TA;bNGI;bYO;bMIM;bBA;bDA;bA;bPHI;bKHAI;bHAO;bDAI;bCHU;bKEAAE;bOL;bMAEM",
    "bNIN;bPA;bOO;bO;bRO;bSHI;bTHEA;bEA;bWA;bE;bKO;bLAN;bLA;bHAI;bRI;bTEK;-1;aDIGIT ZERO;bONE;bTWO",
    "bt;bFOUR;bFIVE;bSIX;bSEVEN;bEIGHT;bNINE;-4;aDANDA;al DANDA;TANGSA a OZ;bOC;bOQ;bOX;bAZ;bAC",
    "bAQ;bAX;bVZ;bVC;bVQ;bVX;bEZ;bEC;bEQ;bEX;bIZ;bIC;bIQ;bIX;bUZ;bUC;bUQ;bUX;bAWZ;bAWC;bAWQ;bAWX",
    "bUIZ;bUIC;bUIQ;bUIX;bn NG;bLONG UEX;bSHORT UEZ;cAWX;bUEC;bUEZ;bUEQ;bUEX;bUIUZ;bUIUC;bUIUQ",
    "bUIUX;bMZ;bMC;bMQ;bMX;bKA;bKHA;bGA;bNGA;bSA;bYA;bWA;bPA;bNYA;bPHA;bBA;bMA;bNA;bHA;bLA;bHTA",
    "bTA;bDA;bRA;bNHA;bSHA;bCA;bTSA;bGHA;bHTTA;bTHA;bXA;bFA;bDHA;bCHA;bZA;-1;aDIGIT ZERO;bONE;bTWO",
    "bt;bFOUR;bFIVE;bSIX;bSEVEN;bEIGHT;bNINE;-6;BASSA VAH a ENNI;cKA;cSE;cFA;cMBE;cYIE;cGAH;cDHII",
    "cKPAH;cJO;cHWAH;cWA;cZO;cGBU;cDO;cCE;cUWU;cTO;cBA;cVU;cYEIN;cPA;cWADDA;cA;cO;cOO;cU;cEE;cE;cI",
    "-2;bCOMBINING HIGH TONE;cLOW TONE;cMID TONE;cLOW-MID TONE;cHIGH-LOW TONE;bFULL STOP;-10",
    "PAHAWH HMONG VOWEL KEEB;cKEEV;cKIB;cKIV;cKAUB;cKAUV;cKUB;cKUV;cKEB;cKEV;cKAIB;cKAIV;cKOOB",
    "cKOOV;cKAWB;cKAWV;cKUAB;cKUAV;cKOB;cKOV;cKIAB;cKIAV;cKAB;cKAV;cKWB;cKWV;cKAAB;cKAAV",
    "bCONSONANT VAU;cNTSAU;cLAU;cHAU;cNLAU;cRAU;cNKAU;cQHAU;cYAU;cHLAU;cMAU;cCHAU;cNCHAU;cHNAU",
    "cPLHAU;cNTHAU;cNAU;cAU;cXAU;cCAU;bMARK CIM TUB;dSO;dKES;dKHAV;dSUAM;dHOM;dTAUM;bg VOS THOM",
    "dTSHAB CEEB;cCIM CHEEM;cVOS THIAB;dFEEM;cXYEEM NTXIV;dRHO;dTOV;dFAIB;cVOS SEEV;cMEEJ SUAB",
    "cVOS NRUA;cIB YAM;cXAUS;cCIM TSOV ROG;-10;bDIGIT ZERO;cONE;cTWO;ct;cFOUR;cFIVE;cSIX;cSEVEN",
    "cEIGHT;cNINE;-1;bNUMBER TENS;cHUNDREDS;cTEN THOUSANDS;cMILLIONS;cHUNDRED MILLIONS",
    "cTEN BILLIONS;cTRILLIONS;-1;bg VOS LUB;cXYOO;cHLI;cTHIRD-STAGE HLI;cZWJ THAJ;cHNUB;cNQIG",
    "cXIAB;cNTUJ;cAV;cTXHEEJ CEEV;cMEEJ TSEEB;cTAU;cLOS;cMUS;cCIM HAIS LUS NTOG NTOG;dCUAM TSHOOJ",
    "dTXWV;eCHWV;dPUB DAWB;dNRES TOS;-5;bCLAN g TSHEEJ;dYEEG;dLIS;dLAUJ;dXYOOJ;dKOO;dHAWJ;dMUAS",
    "dTHOJ;dTSAB;dPHAB;dKHAB;dHAM;dVAJ;dFAJ;dYAJ;dTSWB;dKWM;dVWJ"]),
   (0x16e40, [
    "MEDEFAIDRIN c a M;cS;cV;cW;cATIU;cZ;cKP;cP;cT;cG;cF;cI;cK;cA;cJ;cE;cB;cC;cU;cYU;cL;cQ;cHP;cNY",
    "cX;cD;cOE;cN;cR;cO;cAI;cY;ad a M;cS;cV;cW;cATIU;cZ;cKP;cP;cT;cG;cF;cI;cK;cA;cJ;cE;cB;cC;cU",
    "cYU;cL;cQ;cHP;cNY;cX;cD;cOE;cN;cR;cO;cAI;cY;aDIGIT ZERO;bONE;bTWO;bt;bFOUR;bFIVE;bSIX;bSEVEN",
    "bEIGHT;bNINE;aNUMBER TEN;bELEVEN;bTWELVE;bTHIRTEEN;bFOURTEEN;bFIFTEEN;bSIXTEEN;bSEVENTEEN",
    "bEIGHTEEN;bNINETEEN;aDIGIT ONE ALTERNATE e;bTWO ALTERNATE e;bt ALTERNATE e;aCOMMA;aFULL STOP",
    "aw AIVA;aEXCLAMATION OH"]),
   (0x16f00, [
    "MIAO a PA;bBA;bYI PA;bPLA;bMA;bMHA;bARCHAIC MA;bFA;bVA;bVFA;bTA;bDA;bYI TTA;cTA;bTTA;bDDA;bNA",
    "bNHA;bYI NNA;bARCHAIC NA;bNNA;bNNHA;bLA;bLYA;bLHA;bLHYA;bTLHA;bDLHA;bTLHYA;bDLHYA;bKA;bGA",
    "bYI KA;bQA;bQGA;bNGA;bNGHA;bARCHAIC NGA;bHA;bXA;bGHA;bGHHA;bTSSA;bDZZA;bNYA;bNYHA;bTSHA;bDZHA",
    "bYI TSHA;cDZHA;bREFORMED TSHA;bSHA;bSSA;bZHA;bZSHA;bTSA;bDZA;bYI TSA;bSA;bZA;bZSA;bZZA;bZZSA",
    "bARCHAIC ZZA;bZZYA;bZZSYA;bWA;bAH;bHHA;bBRI;bSYI;bDZYI;bTE;bTSE;bRTE;-4",
    "ag CONSONANT MODIFIER BAR;aa NASALIZATION;ag ASPIRATION;bREFORMED VOICING;cASPIRATION",
    "aVOWEL g A;cAA;cAHH;cAN;cANG;cO;cOO;cWO;cW;cE;cEN;cENG;cOEY;cI;cIA;cIAN;cIANG;cIO;cIE;cII;cIU",
    "cING;cU;cUA;cUAN;cUANG;cUU;cUEI;cUNG;cY;cYI;cAE;cAEE;cERR;cROUNDED ERR;cER;cROUNDED ER;cAI",
    "cEI;cAU;cOU;cN;cNG;cUOG;cYUI;cOG;cOER;cVW;cIG;cEA;cIONG;cUI;-7;aTONE h;bTOP h;bi;bm;aa TONE-2",
    "+6;bREFORMED TONE-1;cTONE-2;cTONE-4;+2;cTONE-8"]),
   (0x16fe0, [
    "TANGUT ITERATION MARK;NUSHU ITERATION MARK;OLD CHINESE HOOK MARK;bITERATION MARK",
    "KHITAN d SCRIPT FILLER;-11;VIETNAMESE ALTERNATE READING MARK CA;dNHAY"]),
   (0x18800, ["TANGUT COMPONENT-001;+767"]),
   (0x1aff0, [
    "KATAKANA a MINNAN TONE-2;+3;-1;cTONE-7;cTONE-8;cNASALIZED TONE-1;+4;-1;dTONE-7;dTONE-8;-1",
    "bARCHAIC E;HIRAGANA a ARCHAIC YE;HENTAIGANA a A-1;+2;bA-WO;bI-1;+3;bU-1;+4;bE-2;+4;bO-1;+2",
    "bKA-1;+10;bKA-KE;bKI-1;+7;bKU-1;+6;bKE-1;+5;bKO-1;+2;bKO-KI;bSA-1;+7;bSI-1;+5;bSU-1;+7;bSE-1",
    "+4;bSO-1;+6;bTA-1;+3;bTI-1;+6;bTU-1;+3;bTU-TO;bTE-1;+8;bTO-1;+5;bTO-RA;bNA-1;+8;bNI-1;+6",
    "bNI-TE;bNU-1;+2;bNE-1;+5;bNE-KO;bNO-1;+4;bHA-1;+10;bHI-1;+6;bHU-1;+2;bHE-1;+6;bHO-1;+7;bMA-1",
    "+6;bMI-1;+6;bMU-1;+3;bME-1;bME-2;bME-MA;bMO-1;+5;bYA-1;+4;bYA-YO;bYU-1;+3;bYO-1;+5;bRA-1;+3",
    "bRI-1;+6;bRU-1;+5;bRE-1;+3;bRO-1;+5;bWA-1;+4;bWI-1;+4;bWE-1;+3;bWO-1;+6;bN-MU-MO-1;bN-MU-MO-2",
    "HIRAGANA a ARCHAIC WU;KATAKANA a ARCHAIC YI;cYE;cWU"]),
   (0x1b150, ["HIRAGANA a d WI;cWE;cWO"]),
   (0x1b164, ["KATAKANA a d WI;cWE;cWO;cN"]),
   (0x1bc00, [
    "DUPLOYAN a H;bX;bP;bT;bF;bK;bL;bB;bD;bV;bG;bR;bP N;bD S;bF N;bK M;bR S;bTH;bSLOAN DH;bDH;bKK",
    "bSLOAN J;bHL;bLH;bRH;bM;bN;bJ;bS;bM N;bN M;bJ M;bS J;bM b DOT;bN b DOT;bJ b DOT",
    "dDOTS INSIDE p i;bS b DOT;em;bM S;bN S;bJ S;bS S;bM N S;bN M S;bJ M S;bS J S;bJ S b DOT;cN;dS",
    "bS T;dR;cP;dR;bT S;cR S;bW;bWH;bW R;bS N;cM;bK R S;bG R S;bS K;dR;bA;bSLOAN OW;bOA;bO;bAOU;bI",
    "bE;bIE;bSHORT I;bUI;bEE;bSLOAN EH;bROMANIAN I;bSLOAN EE;bLONG I;bYE;bU;bEU;bXW;bU N;bLONG U",
    "bROMANIAN U;bUH;bSLOAN U;bOOH;bOW;bOU;bWA;bWO;bWI;bWEI;bWOW;bNASAL U;cO;cI;cA;bPERNIN AN;cAM",
    "bSLOAN EN;cAN;cON;bVOCALIC M;-5;aAFFIX o y SECANT;bMID y SECANT;bh y SECANT;bLOW q SECANT",
    "bMID q SECANT;bHIGH q SECANT;bATTACHED SECANT;cLEFT-TO-RIGHT SECANT;cTANGENT;cTAIL;cE HOOK",
    "cI HOOK;cTANGENT HOOK;-3;bHIGH ACUTE;cTIGHT ACUTE;cGRAVE;cLONG GRAVE;cDOT;cCIRCLE;cLINE;cWAVE",
    "cq;-7;bLOW ACUTE;cTIGHT ACUTE;cGRAVE;cLONG GRAVE;cDOT;cCIRCLE;cLINE;cWAVE;cq;cf;-2",
    "ag O b CROSS;aTHICK a SELECTOR;al MARK;aPUNCTUATION CHINOOK FULL STOP",
    "SHORTHAND FORMAT a OVERLAP;bCONTINUING OVERLAP;bDOWN STEP;bUP STEP"]),
   (0x1cf00, [
    "ZNAMENNY COMBINING MARK GORAZDO NIZKO S KRYZHEM ON o;cNIZKO S KRYZHEM ON o;cTSATA ON o",
    "cGORAZDO NIZKO ON o;cNIZKO ON o;cSREDNE ON o;cMALO POVYSHE ON o;cPOVYSHE ON o;cVYSOKO ON o",
    "cMALO POVYSHE S KHOKHLOM ON o;cPOVYSHE S KHOKHLOM ON o;cVYSOKO S KHOKHLOM ON o",
    "cGORAZDO NIZKO S KRYZHEM ON h;cNIZKO S KRYZHEM ON h;cTSATA ON h;cGORAZDO NIZKO ON h",
    "cNIZKO ON h;cSREDNE ON h;cMALO POVYSHE ON h;cPOVYSHE ON h;cVYSOKO ON h",
    "cMALO POVYSHE S KHOKHLOM ON h;cPOVYSHE S KHOKHLOM ON h;cVYSOKO S KHOKHLOM ON h",
    "cTSATA S KRYZHEM;cMALO POVYSHE S KRYZHEM;cSTRANNO MALO POVYSHE;cPOVYSHE S KRYZHEM;dSTRANNO",
    "cVYSOKO S KRYZHEM;cMALO POVYSHE STRANNO;cGORAZDO VYSOKO;cZELO;cON;cRAVNO;cTIKHAYA;cBORZAYA",
    "cUDARKA;cPODVERTKA;cLOMKA;cKUPNAYA;cKACHKA;cZEVOK;cSKOBA;cRAZSEKA;cKRYZH ON o;-2",
    "bTONAL RANGE MARK MRACHNO;eSVETLO;eTRESVETLO;bMARK ZADERZHKA;cDEMESTVENNY ZADERZHKA;cOTSECHKA",
    "cPODCHASHIE;db q v;cCHASHKA;dPOLNAYA;cOBLACHKO;cSOROCHYA NOZHKA;cTOCHKA;cDVOETOCHIE",
    "bATTACHING q OMET;bMARK CURVED OMET;cKRYZH;bLOWER TONAL RANGE INDICATOR",
    "aPRIZNAK MODIFIER LEVEL-2;cLEVEL-3;cDIRECTION FLIP;cKRYZH;cROG;-9;aNEUME KRYUK;cTIKHY",
    "bPARAKLIT;bDVA V CHELNU;bKLYUCH;bZANOZHEK;bSTOPITSA;cS OCHKOM;bPEREVODKA;cNEPOSTOYANNAYA",
    "bSTOPITSA b SOROCHYA NOZHKA;bCHELYUSTKA;bPALKA;bZAPYATAYA;bGOLUBCHIK BORZY;cTIKHY;cMRACHNY",
    "cSVETLY;cTRESVETLY;bVRAKHIYA PROSTAYA;cMRACHNAYA;cSVETLAYA;cTRESVETLAYA;cKLYUCHEVAYA PROSTAYA",
    "dMRACHNAYA;dSVETLAYA;dTRESVETLAYA;bl ZAPYATAYA;bREVERSED CHELYUSTKA;bDERBITSA;bKHAMILO",
    "bCHASHKA;bPODCHASHIE;bSKAMEYTSA MRACHNAYA;cSVETLAYA;cTRESVETLAYA;cTIKHAYA;bDEMESTVENNY KLYUCH",
    "bSKAMEYTSA KLYUCHEVAYA SVETLAYA;cKLYUCHENEPOSTOYANNAYA;cKLYUCHEVAYA TIKHAYA",
    "cDVOECHELNAYA PROSTAYA;dSVETLAYA;dNEPOSTOYANNAYA;dKLYUCHEVAYA;bSLOZHITIE;cS ZAPYATOY",
    "cZAKRYTOE;cS KRYZHEM;bKRYZH;bROG;bFITA;bKOBYLA;bZMEYTSA;bSTATYA;cS ZAPYATOY;dKRYZHEM",
    "dZAPYATOY I KRYZHEM;dKRYZHEM I ZAPYATOY;cZAKRYTAYA;dS ZAPYATOY;cS ROGOM;dDVUMYA ZAPYATYMI",
    "dZAPYATOY I PODCHASHIEM;bPOLKULIZMY;bSTATYA NEPOSTOYANNAYA;bSTRELA PROSTAYA;cMRACHNOTIKHAYA",
    "cKRYZHEVAYA;cPOLUPOVODNAYA;cPOVODNAYA;cNEPOSTOYANNAYA;cKLYUCHEPOVODNAYA",
    "cKLYUCHENEPOSTOYANNAYA;cTIKHAYA PUTNAYA;cDVOECHELNAYA;cDVOECHELNOKRYZHEVAYA",
    "cDVOECHELNOPOVODNAYA;cDVOECHELNAYA KLYUCHEVAYA;cDVOECHELNOPOVODNAYA KLYUCHEVAYA",
    "cGROMNAYA b SINGLE ZAPYATAYA;cGROMOPOVODNAYA b SINGLE ZAPYATAYA;cGROMNAYA;cGROMOPOVODNAYA",
    "db l ZAPYATAYA;cGROMOKRYZHEVAYA;dPOVODNAYA;bMECHIK;cPOVODNY;cKLYUCHEVOY;cKLYUCHEPOVODNY",
    "cKLYUCHENEPOSTOYANNY;bSTRELA TRYASOGLASNAYA;cTRYASOPOVODNAYA;cTRYASOSTRELNAYA;bOSOKA",
    "cSVETLAYA;cTRESVETLAYA;cKRYUKOVAYA SVETLAYA;cKLYUCHEVAYA SVETLAYA;dNEPOSTOYANNAYA",
    "bSTRELA KRYUKOVAYA;dPOVODNAYA;dGROMNAYA b SINGLE ZAPYATAYA;dGROMOPOVODNAYA b SINGLE ZAPYATAYA",
    "dGROMNAYA;dGROMOPOVODNAYA;eb l ZAPYATAYA;dGROMOKRYZHEVAYA;ePOVODNAYA;dTRYASKA;bKUFISMA",
    "bOBLAKO;bDUDA;bNEMKA;bPAUK"]),
   (0x1d000, [
    "BYZANTINE MUSICAL w PSILI;cDASEIA;cPERISPOMENI;cOXEIA EKFONITIKON;dDIPLI;cVAREIA EKFONITIKON",
    "dDIPLI;cKATHISTI;cSYRMATIKI;cPARAKLITIKI;cYPOKRISIS;dDIPLI;cKREMASTI;cAPESO EKFONITIKON",
    "cEXO EKFONITIKON;cTELEIA;cKENTIMATA;cAPOSTROFOS;dDIPLI;cSYNEVMA;cTHITA;cOLIGON ARCHAION",
    "cGORGON ARCHAION;cPSILON;cCHAMILON;cVATHY;cISON ARCHAION;cKENTIMA ARCHAION",
    "cKENTIMATA ARCHAION;cSAXIMATA;cPARICHON;cSTAVROS APODEXIA;cOXEIAI ARCHAION;cVAREIAI ARCHAION",
    "cAPODERMA ARCHAION;cAPOTHEMA;cKLASMA;cREVMA;cPIASMA ARCHAION;cTINAGMA;cANATRICHISMA;cSEISMA",
    "cSYNAGMA ARCHAION;dMETA STAVROU;cOYRANISMA ARCHAION;cTHEMA;cLEMOI;cDYO;cTRIA;cTESSERA",
    "cKRATIMATA;cAPESO EXO NEO;cFTHORA ARCHAION;cIMIFTHORA;cTROMIKON ARCHAION;cKATAVA TROMIKON",
    "cPELASTON;cPSIFISTON;cKONTEVMA;cCHOREVMA ARCHAION;cRAPISMA;cPARAKALESMA ARCHAION",
    "cPARAKLITIKI ARCHAION;cICHADIN;cNANA;cPETASMA;cKONTEVMA ALLO;cTROMIKON ALLO;cSTRAGGISMATA",
    "cGRONTHISMATA;cISON NEO;cOLIGON NEO;cOXEIA NEO;cPETASTI;cKOUFISMA;cPETASTOKOUFISMA",
    "cKRATIMOKOUFISMA;cPELASTON NEO;cKENTIMATA NEO ANO;cKENTIMA NEO ANO;cYPSILI;cAPOSTROFOS NEO",
    "cAPOSTROFOI SYNDESMOS NEO;cYPORROI;cKRATIMOYPORROON;cELAFRON;cCHAMILI;cMIKRON ISON",
    "cVAREIA NEO;cPIASMA NEO;cPSIFISTON NEO;cOMALON;cANTIKENOMA;cLYGISMA;cPARAKLITIKI NEO",
    "cPARAKALESMA NEO;cETERON PARAKALESMA;cKYLISMA;cANTIKENOKYLISMA;cTROMIKON NEO;cEKSTREPTON",
    "cSYNAGMA NEO;cSYRMA;cCHOREVMA NEO;cEPEGERMA;cSEISMA NEO;cXIRON KLASMA;cTROMIKOPSIFISTON",
    "cPSIFISTOLYGISMA;cTROMIKOLYGISMA;cTROMIKOPARAKALESMA;cPSIFISTOPARAKALESMA;cTROMIKOSYNAGMA",
    "cPSIFISTOSYNAGMA;cGORGOSYNTHETON;cARGOSYNTHETON;cETERON ARGOSYNTHETON;cOYRANISMA NEO",
    "cTHEMATISMOS ESO;dEXO;cTHEMA APLOUN;cTHES KAI APOTHES;cKATAVASMA;cENDOFONON;cYFEN KATO;dANO",
    "cSTAVROS;cKLASMA ANO;cDIPLI ARCHAION;cKRATIMA ARCHAION;dALLO;dNEO;cAPODERMA NEO;cAPLI;cDIPLI",
    "cTRIPLI;cTETRAPLI;cKORONIS;cLEIMMA ENOS CHRONOU;dDYO CHRONON;dTRION CHRONON;dTESSARON CHRONON",
    "dIMISEOS CHRONOU;cGORGON NEO ANO;dPARESTIGMENON ARISTERA;eDEXIA;cDIGORGON",
    "dPARESTIGMENON ARISTERA KATO;fANO;eDEXIA;cTRIGORGON;cARGON;cIMIDIARGON;cDIARGON",
    "cAGOGI POLI ARGI;dARGOTERI;dARGI;dMETRIA;dMESI;dGORGI;dGORGOTERI;dPOLI GORGI",
    "cMARTYRIA PROTOS ICHOS;dALLI PROTOS ICHOS;dDEYTEROS ICHOS;dALLI DEYTEROS ICHOS;dTRITOS ICHOS",
    "dTRIFONIAS;dTETARTOS ICHOS;eLEGETOS ICHOS;dLEGETOS ICHOS;dPLAGIOS ICHOS",
    "cISAKIA TELOUS ICHIMATOS;cAPOSTROFOI TELOUS ICHIMATOS;cFANEROSIS TETRAFONIAS;dMONOFONIAS",
    "dDIFONIAS;cMARTYRIA VARYS ICHOS;dPROTOVARYS ICHOS;dPLAGIOS TETARTOS ICHOS",
    "cGORTHMIKON N APLOUN;eDIPLOUN;cENARXIS KAI FTHORA VOU;cIMIFONON;cIMIFTHORON",
    "cFTHORA ARCHAION DEYTEROU ICHOU;dDIATONIKI PA;eNANA;dNAOS ICHOS;dDIATONIKI DI",
    "dSKLIRON DIATONON DI;dDIATONIKI KE;eZO;eNI KATO;fANO;dMALAKON CHROMA DIFONIAS;fMONOFONIAS",
    "cFHTORA SKLIRON CHROMA VASIS;cFTHORA SKLIRON CHROMA SYNAFI;dNENANO;cCHROA ZYGOS;dKLITON",
    "dSPATHI;cFTHORA I YFESIS TETARTIMORION;dENARMONIOS ANTIFONIA;cYFESIS TRITIMORION",
    "cDIESIS TRITIMORION;dTETARTIMORION;dAPLI DYO DODEKATA;dMONOGRAMMOS TESSERA DODEKATA",
    "dDIGRAMMOS EX DODEKATA;dTRIGRAMMOS OKTO DODEKATA;cYFESIS APLI DYO DODEKATA",
    "dMONOGRAMMOS TESSERA DODEKATA;dDIGRAMMOS EX DODEKATA;dTRIGRAMMOS OKTO DODEKATA;cGENIKI DIESIS",
    "dYFESIS;cDIASTOLI APLI MIKRI;eMEGALI;dDIPLI;dTHESEOS;cSIMANSIS THESEOS;eDISIMOU;eTRISIMOU",
    "eTETRASIMOU;dARSEOS;eDISIMOU;eTRISIMOU;eTETRASIMOU;cDIGRAMMA GG;cDIFTOGGOS OU;cSTIGMA",
    "cARKTIKO PA;dVOU;dGA;dDI;dKE;dZO;dNI;cKENTIMATA NEO MESO;cKENTIMA NEO MESO",
    "cKENTIMATA NEO KATO;cKENTIMA NEO KATO;cKLASMA KATO;cGORGON NEO KATO;-10",
    "MUSICAL w SINGLE BARLINE;bl BARLINE;bn BARLINE;bREVERSE n BARLINE;bDASHED BARLINE",
    "bSHORT BARLINE;bo REPEAT g;bh REPEAT g;bREPEAT DOTS;bDAL SEGNO;bDA CAPO;bSEGNO;bCODA",
    "bREPEATED FIGURE-1;+2;bFERMATA;cm;bBREATH MARK;bCAESURA;bBRACE;bBRACKET;bONE-LINE STAFF",
    "bTWO-LINE STAFF;bTHREE-LINE STAFF;bFOUR-LINE STAFF;bFIVE-LINE STAFF;bSIX-LINE STAFF",
    "bSIX-STRING FRETBOARD;bFOUR-STRING FRETBOARD;bG CLEF;dOTTAVA ALTA;eBASSA;bC CLEF;bF CLEF",
    "dOTTAVA ALTA;eBASSA;bDRUM CLEF-1;cCLEF-2;-2;bMULTIPLE MEASURE REST;bl SHARP;cFLAT;bFLAT UP",
    "cDOWN;bNATURAL UP;cDOWN;bSHARP UP;cDOWN;bQUARTER TONE SHARP;dFLAT;bCOMMON TIME;bCUT TIME",
    "bOTTAVA ALTA;cBASSA;bQUINDICESIMA ALTA;cBASSA;bMULTI REST;bWHOLE REST;bHALF REST",
    "bQUARTER REST;bEIGHTH REST;bSIXTEENTH REST;bTHIRTY-SECOND REST;bSIXTY-FOURTH REST",
    "bONE HUNDRED TWENTY-EIGHTH REST;bX NOTEHEAD;bPLUS NOTEHEAD;bCIRCLE X NOTEHEAD",
    "bSQUARE NOTEHEAD z;dx;bTRIANGLE NOTEHEAD UP z;ex;do z;ex;dh z;ex;dDOWN z;ex;dUP h z;fx",
    "bMOON NOTEHEAD z;dx;bTRIANGLE-ROUND NOTEHEAD DOWN z;ex;bPARENTHESIS NOTEHEAD;bVOID NOTEHEAD",
    "bNOTEHEAD x;bNULL NOTEHEAD;bCLUSTER NOTEHEAD z;dx;bBREVE;bWHOLE NOTE;bHALF NOTE;bQUARTER NOTE",
    "bEIGHTH NOTE;bSIXTEENTH NOTE;bTHIRTY-SECOND NOTE;bSIXTY-FOURTH NOTE",
    "bONE HUNDRED TWENTY-EIGHTH NOTE;bCOMBINING STEM;cSPRECHGESANG STEM;cTREMOLO-1;+2",
    "bFINGERED TREMOLO-1;+2;bCOMBINING AUGMENTATION DOT;cFLAG-1;+4;bBEGIN BEAM;bEND BEAM",
    "bBEGIN TIE;bEND TIE;bBEGIN SLUR;bEND SLUR;bBEGIN PHRASE;bEND PHRASE;bCOMBINING ACCENT",
    "cSTACCATO;cTENUTO;cSTACCATISSIMO;cMARCATO;cMARCATO-STACCATO;cACCENT-STACCATO;cLOURE",
    "bARPEGGIATO UP;cDOWN;bCOMBINING DOIT;cRIP;cFLIP;cSMEAR;cBEND;cl TONGUE;cTRIPLE TONGUE",
    "bRINFORZANDO;bSUBITO;bZ;bPIANO;bMEZZO;bFORTE;bCRESCENDO;bDECRESCENDO;bGRACE NOTE SLASH",
    "dNO SLASH;bTR;bTURN;bINVERTED TURN;bTURN SLASH;cUP;bORNAMENT STROKE-1;+10;bHAUPTSTIMME",
    "bNEBENSTIMME;bEND OF STIMME;bDEGREE SLASH;bCOMBINING DOWN BOW;cUP BOW;cHARMONIC",
    "cSNAP PIZZICATO;bPEDAL MARK;cUP MARK;bHALF PEDAL MARK;bGLISSANDO UP;cDOWN;bb FINGERNAILS",
    "bDAMP;cALL;bMAXIMA;bLONGA;bBREVIS;bSEMIBREVIS z;cx;bMINIMA;cx;bSEMIMINIMA z;cx;bFUSA z;cx",
    "bLONGA PERFECTA REST;cIMPERFECTA REST;bBREVIS REST;bSEMIBREVIS REST;bMINIMA REST",
    "bSEMIMINIMA REST;bTEMPUS PERFECTUM CUM PROLATIONE PERFECTA;fIMPERFECTA;fPERFECTA DIMINUTION-1",
    "cIMPERFECTUM CUM PROLATIONE PERFECTA;fIMPERFECTA;gDIMINUTION-1;+2;bCROIX;bGREGORIAN C CLEF",
    "cF CLEF;bSQUARE B;bVIRGA;bPODATUS;bCLIVIS;bSCANDICUS;bCLIMACUS;bTORCULUS;bPORRECTUS;cFLEXUS",
    "bSCANDICUS FLEXUS;bTORCULUS RESUPINUS;bPES SUBPUNCTIS;bKIEVAN C CLEF;cEND OF PIECE;cn NOTE",
    "cRECITATIVE MARK;cWHOLE NOTE;cHALF NOTE;cQUARTER NOTE STEM DOWN;fUP;cEIGHTH NOTE STEM DOWN",
    "fUP;cFLAT g;bSORI;bKORON"]),
   (0x1d200, [
    "GREEK VOCAL NOTATION SYMBOL-1;+23;cSYMBOL-50;+4;aINSTRUMENTAL NOTATION SYMBOL-1;cSYMBOL-2",
    "cSYMBOL-4;cSYMBOL-5;cSYMBOL-7;cSYMBOL-8;cSYMBOL-11;+3;cSYMBOL-17;+2;cSYMBOL-23;+4;cSYMBOL-29",
    "cSYMBOL-30;cSYMBOL-32;cSYMBOL-36;+4;cSYMBOL-42;cSYMBOL-43;cSYMBOL-45;cSYMBOL-47;+7",
    "COMBINING GREEK MUSICAL TRISEME;cTETRASEME;cPENTASEME;GREEK MUSICAL LEIMMA"]),
   (0x1d2e0, [
    "MAYAN NUMERAL ZERO;bONE;bTWO;bt;bFOUR;bFIVE;bSIX;bSEVEN;bEIGHT;bNINE;bTEN;bELEVEN;bTWELVE",
    "bTHIRTEEN;bFOURTEEN;bFIFTEEN;bSIXTEEN;bSEVENTEEN;bEIGHTEEN;bNINETEEN;-12;MONOGRAM FOR EARTH",
    "DIGRAM FOR HEAVENLY EARTH;bHUMAN EARTH;bEARTHLY HEAVEN;cHUMAN;bEARTH;TETRAGRAM FOR CENTRE",
    "bFULL CIRCLE;bMIRED;bBARRIER;bKEEPING d;bCONTRARIETY;bASCENT;bOPPOSITION;bBRANCHING OUT",
    "bDEFECTIVENESS OR DISTORTION;bDIVERGENCE;bYOUTHFULNESS;bINCREASE;bPENETRATION;bREACH;bCONTACT",
    "bHOLDING BACK;bWAITING;bFOLLOWING;bADVANCE;bRELEASE;bRESISTANCE;bEASE;bJOY;bCONTENTION",
    "bENDEAVOUR;bDUTIES;bCHANGE;bDECISIVENESS;bBOLD RESOLUTION;bPACKING;bLEGION;bCLOSENESS",
    "bKINSHIP;bGATHERING;bSTRENGTH;bPURITY;bFULLNESS;bRESIDENCE;bLAW OR MODEL;bRESPONSE",
    "bGOING TO MEET;bENCOUNTERS;bSTOVE;bGREATNESS;bENLARGEMENT;bPATTERN;bRITUAL;bFLIGHT",
    "bVASTNESS OR WASTING;bCONSTANCY;bMEASURE;bETERNITY;bUNITY;bDIMINISHMENT;bCLOSED MOUTH",
    "bGUARDEDNESS;bGATHERING IN;bMASSING;bACCUMULATION;bEMBELLISHMENT;bDOUBT;bWATCH;bSINKING",
    "bINNER;bDEPARTURE;bDARKENING;bDIMMING;bEXHAUSTION;bSEVERANCE;bSTOPPAGE;bHARDNESS;bCOMPLETION",
    "bCLOSURE;bFAILURE;bAGGRAVATION;bCOMPLIANCE;bON THE VERGE;bDIFFICULTIES;bLABOURING;bFOSTERING",
    "-9;COUNTING ROD UNIT DIGIT ONE;dTWO;dt;dFOUR;dFIVE;dSIX;dSEVEN;dEIGHT;dNINE;bTENS DIGIT ONE",
    "dTWO;dt;dFOUR;dFIVE;dSIX;dSEVEN;dEIGHT;dNINE;IDEOGRAPHIC TALLY MARK ONE;cTWO;ct;cFOUR;cFIVE",
    "TALLY MARK ONE;bFIVE"]),
   (0x1d400, [
    "MATHEMATICAL BOLD c A;cB;cC;cD;cE;cF;cG;cH;cI;cJ;cK;cL;cM;cN;cO;cP;cQ;cR;cS;cT;cU;cV;cW;cX;cY",
    "cZ;bd A;cB;cC;cD;cE;cF;cG;cH;cI;cJ;cK;cL;cM;cN;cO;cP;cQ;cR;cS;cT;cU;cV;cW;cX;cY;cZ",
    "aITALIC c A;cB;cC;cD;cE;cF;cG;cH;cI;cJ;cK;cL;cM;cN;cO;cP;cQ;cR;cS;cT;cU;cV;cW;cX;cY;cZ;bd A",
    "cB;cC;cD;cE;cF;cG;-1;cI;cJ;cK;cL;cM;cN;cO;cP;cQ;cR;cS;cT;cU;cV;cW;cX;cY;cZ;aBOLD ITALIC c A",
    "dB;dC;dD;dE;dF;dG;dH;dI;dJ;dK;dL;dM;dN;dO;dP;dQ;dR;dS;dT;dU;dV;dW;dX;dY;dZ;cd A;dB;dC;dD;dE",
    "dF;dG;dH;dI;dJ;dK;dL;dM;dN;dO;dP;dQ;dR;dS;dT;dU;dV;dW;dX;dY;dZ;aSCRIPT c A;-1;cC;cD;-2;cG;-2",
    "cJ;cK;-2;cN;cO;cP;cQ;-1;cS;cT;cU;cV;cW;cX;cY;cZ;bd A;cB;cC;cD;-1;cF;-1;cH;cI;cJ;cK;cL;cM;cN",
    "-1;cP;cQ;cR;cS;cT;cU;cV;cW;cX;cY;cZ;aBOLD SCRIPT c A;dB;dC;dD;dE;dF;dG;dH;dI;dJ;dK;dL;dM;dN",
    "dO;dP;dQ;dR;dS;dT;dU;dV;dW;dX;dY;dZ;cd A;dB;dC;dD;dE;dF;dG;dH;dI;dJ;dK;dL;dM;dN;dO;dP;dQ;dR",
    "dS;dT;dU;dV;dW;dX;dY;dZ;aFRAKTUR c A;cB;-1;cD;cE;cF;cG;-2;cJ;cK;cL;cM;cN;cO;cP;cQ;-1;cS;cT;cU",
    "cV;cW;cX;cY;-1;bd A;cB;cC;cD;cE;cF;cG;cH;cI;cJ;cK;cL;cM;cN;cO;cP;cQ;cR;cS;cT;cU;cV;cW;cX;cY",
    "cZ;aDOUBLE-STRUCK c A;cB;-1;cD;cE;cF;cG;-1;cI;cJ;cK;cL;cM;-1;cO;-3;cS;cT;cU;cV;cW;cX;cY;-1",
    "bd A;cB;cC;cD;cE;cF;cG;cH;cI;cJ;cK;cL;cM;cN;cO;cP;cQ;cR;cS;cT;cU;cV;cW;cX;cY;cZ",
    "aBOLD FRAKTUR c A;dB;dC;dD;dE;dF;dG;dH;dI;dJ;dK;dL;dM;dN;dO;dP;dQ;dR;dS;dT;dU;dV;dW;dX;dY;dZ",
    "cd A;dB;dC;dD;dE;dF;dG;dH;dI;dJ;dK;dL;dM;dN;dO;dP;dQ;dR;dS;dT;dU;dV;dW;dX;dY;dZ",
    "aSANS-SERIF c A;cB;cC;cD;cE;cF;cG;cH;cI;cJ;cK;cL;cM;cN;cO;cP;cQ;cR;cS;cT;cU;cV;cW;cX;cY;cZ",
    "bd A;cB;cC;cD;cE;cF;cG;cH;cI;cJ;cK;cL;cM;cN;cO;cP;cQ;cR;cS;cT;cU;cV;cW;cX;cY;cZ;bBOLD c A;dB",
    "dC;dD;dE;dF;dG;dH;dI;dJ;dK;dL;dM;dN;dO;dP;dQ;dR;dS;dT;dU;dV;dW;dX;dY;dZ;cd A;dB;dC;dD;dE;dF",
    "dG;dH;dI;dJ;dK;dL;dM;dN;dO;dP;dQ;dR;dS;dT;dU;dV;dW;dX;dY;dZ;bITALIC c A;dB;dC;dD;dE;dF;dG;dH",
    "dI;dJ;dK;dL;dM;dN;dO;dP;dQ;dR;dS;dT;dU;dV;dW;dX;dY;dZ;cd A;dB;dC;dD;dE;dF;dG;dH;dI;dJ;dK;dL",
    "dM;dN;dO;dP;dQ;dR;dS;dT;dU;dV;dW;dX;dY;dZ;bBOLD ITALIC c A;eB;eC;eD;eE;eF;eG;eH;eI;eJ;eK;eL",
    "eM;eN;eO;eP;eQ;eR;eS;eT;eU;eV;eW;eX;eY;eZ;dd A;eB;eC;eD;eE;eF;eG;eH;eI;eJ;eK;eL;eM;eN;eO;eP",
    "eQ;eR;eS;eT;eU;eV;eW;eX;eY;eZ;aMONOSPACE c A;cB;cC;cD;cE;cF;cG;cH;cI;cJ;cK;cL;cM;cN;cO;cP;cQ",
    "cR;cS;cT;cU;cV;cW;cX;cY;cZ;bd A;cB;cC;cD;cE;cF;cG;cH;cI;cJ;cK;cL;cM;cN;cO;cP;cQ;cR;cS;cT;cU",
    "cV;cW;cX;cY;cZ;aITALIC d DOTLESS I;dJ;-2;aBOLD c ALPHA;cBETA;cGAMMA;cDELTA;cEPSILON;cZETA",
    "cETA;cTHETA;cIOTA;cKAPPA;cLAMDA;cMU;cNU;cXI;cOMICRON;cPI;cRHO;cTHETA w;cSIGMA;cTAU;cUPSILON",
    "cPHI;cCHI;cPSI;cOMEGA;bNABLA;bd ALPHA;cBETA;cGAMMA;cDELTA;cEPSILON;cZETA;cETA;cTHETA;cIOTA",
    "cKAPPA;cLAMDA;cMU;cNU;cXI;cOMICRON;cPI;cRHO;cn SIGMA;cSIGMA;cTAU;cUPSILON;cPHI;cCHI;cPSI",
    "cOMEGA;bPARTIAL DIFFERENTIAL;bEPSILON w;bTHETA w;bKAPPA w;bPHI w;bRHO w;bPI w;aITALIC c ALPHA",
    "cBETA;cGAMMA;cDELTA;cEPSILON;cZETA;cETA;cTHETA;cIOTA;cKAPPA;cLAMDA;cMU;cNU;cXI;cOMICRON;cPI",
    "cRHO;cTHETA w;cSIGMA;cTAU;cUPSILON;cPHI;cCHI;cPSI;cOMEGA;bNABLA;bd ALPHA;cBETA;cGAMMA;cDELTA",
    "cEPSILON;cZETA;cETA;cTHETA;cIOTA;cKAPPA;cLAMDA;cMU;cNU;cXI;cOMICRON;cPI;cRHO;cn SIGMA;cSIGMA",
    "cTAU;cUPSILON;cPHI;cCHI;cPSI;cOMEGA;bPARTIAL DIFFERENTIAL;bEPSILON w;bTHETA w;bKAPPA w;bPHI w",
    "bRHO w;bPI w;aBOLD ITALIC c ALPHA;dBETA;dGAMMA;dDELTA;dEPSILON;dZETA;dETA;dTHETA;dIOTA;dKAPPA",
    "dLAMDA;dMU;dNU;dXI;dOMICRON;dPI;dRHO;dTHETA w;dSIGMA;dTAU;dUPSILON;dPHI;dCHI;dPSI;dOMEGA",
    "cNABLA;cd ALPHA;dBETA;dGAMMA;dDELTA;dEPSILON;dZETA;dETA;dTHETA;dIOTA;dKAPPA;dLAMDA;dMU;dNU",
    "dXI;dOMICRON;dPI;dRHO;dn SIGMA;dSIGMA;dTAU;dUPSILON;dPHI;dCHI;dPSI;dOMEGA",
    "cPARTIAL DIFFERENTIAL;cEPSILON w;cTHETA w;cKAPPA w;cPHI w;cRHO w;cPI w",
    "aSANS-SERIF BOLD c ALPHA;dBETA;dGAMMA;dDELTA;dEPSILON;dZETA;dETA;dTHETA;dIOTA;dKAPPA;dLAMDA",
    "dMU;dNU;dXI;dOMICRON;dPI;dRHO;dTHETA w;dSIGMA;dTAU;dUPSILON;dPHI;dCHI;dPSI;dOMEGA;cNABLA",
    "cd ALPHA;dBETA;dGAMMA;dDELTA;dEPSILON;dZETA;dETA;dTHETA;dIOTA;dKAPPA;dLAMDA;dMU;dNU;dXI",
    "dOMICRON;dPI;dRHO;dn SIGMA;dSIGMA;dTAU;dUPSILON;dPHI;dCHI;dPSI;dOMEGA;cPARTIAL DIFFERENTIAL",
    "cEPSILON w;cTHETA w;cKAPPA w;cPHI w;cRHO w;cPI w;cITALIC c ALPHA;eBETA;eGAMMA;eDELTA;eEPSILON",
    "eZETA;eETA;eTHETA;eIOTA;eKAPPA;eLAMDA;eMU;eNU;eXI;eOMICRON;ePI;eRHO;eTHETA w;eSIGMA;eTAU",
    "eUPSILON;ePHI;eCHI;ePSI;eOMEGA;dNABLA;dd ALPHA;eBETA;eGAMMA;eDELTA;eEPSILON;eZETA;eETA;eTHETA",
    "eIOTA;eKAPPA;eLAMDA;eMU;eNU;eXI;eOMICRON;ePI;eRHO;en SIGMA;eSIGMA;eTAU;eUPSILON;ePHI;eCHI",
    "ePSI;eOMEGA;dPARTIAL DIFFERENTIAL;dEPSILON w;dTHETA w;dKAPPA w;dPHI w;dRHO w;dPI w",
    "aBOLD c DIGAMMA;bd DIGAMMA;-2;bDIGIT ZERO;cONE;cTWO;ct;cFOUR;cFIVE;cSIX;cSEVEN;cEIGHT;cNINE",
    "aDOUBLE-STRUCK DIGIT ZERO;cONE;cTWO;ct;cFOUR;cFIVE;cSIX;cSEVEN;cEIGHT;cNINE",
    "aSANS-SERIF DIGIT ZERO;cONE;cTWO;ct;cFOUR;cFIVE;cSIX;cSEVEN;cEIGHT;cNINE;bBOLD DIGIT ZERO",
    "dONE;dTWO;dt;dFOUR;dFIVE;dSIX;dSEVEN;dEIGHT;dNINE;aMONOSPACE DIGIT ZERO;cONE;cTWO;ct;cFOUR",
    "cFIVE;cSIX;cSEVEN;cEIGHT;cNINE;SIGNWRITING HAND-FIST INDEX;aHAND-CIRCLE INDEX;aHAND-CUP INDEX",
    "aHAND-OVAL INDEX;aHAND-HINGE INDEX;aHAND-ANGLE INDEX;aHAND-FIST INDEX BENT",
    "aHAND-CIRCLE INDEX BENT;aHAND-FIST THUMB UNDER INDEX BENT;bINDEX RAISED KNUCKLE;cCUPPED",
    "cHINGED;dLOW;aHAND-CIRCLE INDEX HINGE;aHAND-FIST INDEX MIDDLE;aHAND-CIRCLE INDEX MIDDLE",
    "aHAND-FIST INDEX MIDDLE BENT;dRAISED KNUCKLES;dHINGED;cUP MIDDLE HINGED;cHINGED MIDDLE UP",
    "cMIDDLE CONJOINED;eINDEX BENT;eMIDDLE BENT;eCUPPED;eHINGED;dCROSSED",
    "aHAND-CIRCLE INDEX MIDDLE CROSSED;aHAND-FIST MIDDLE BENT OVER INDEX;bINDEX BENT OVER MIDDLE",
    "cMIDDLE THUMB;aHAND-CIRCLE INDEX MIDDLE THUMB;aHAND-FIST INDEX MIDDLE STRAIGHT THUMB BENT",
    "dBENT THUMB STRAIGHT;dTHUMB BENT;dHINGED SPREAD THUMB SIDE;cUP MIDDLE HINGED THUMB SIDE",
    "gCONJOINED;cHINGED MIDDLE UP THUMB SIDE;cMIDDLE UP SPREAD THUMB FORWARD;dTHUMB CUPPED",
    "eCIRCLED;eHOOKED;eHINGED;bTHUMB BETWEEN INDEX MIDDLE STRAIGHT",
    "bINDEX MIDDLE CONJOINED THUMB SIDE;gCONJOINED;gBENT;bMIDDLE THUMB HOOKED INDEX UP",
    "bINDEX THUMB HOOKED MIDDLE UP;cMIDDLE CONJOINED HINGED THUMB SIDE;dCROSSED THUMB SIDE",
    "dCONJOINED THUMB FORWARD;eCUPPED THUMB FORWARD;bMIDDLE THUMB CUPPED INDEX UP",
    "bINDEX THUMB CUPPED MIDDLE UP;bMIDDLE THUMB CIRCLED INDEX UP;fHINGED",
    "bINDEX THUMB ANGLED OUT MIDDLE UP;eIN MIDDLE UP;dCIRCLED MIDDLE UP",
    "cMIDDLE THUMB CONJOINED HINGED;eANGLED OUT;eANGLED;bMIDDLE THUMB ANGLED OUT INDEX UP;gCROSSED",
    "eINDEX UP;bINDEX THUMB HOOKED MIDDLE HINGED;aHAND-FLAT FOUR FINGERS;dBENT;dHINGED;dCONJOINED",
    "eSPLIT;aHAND-CLAW FOUR FINGERS CONJOINED;aHAND-FIST FOUR FINGERS CONJOINED BENT",
    "aHAND-HINGE FOUR FINGERS CONJOINED;aHAND-FLAT FIVE FINGERS SPREAD;bHEEL FIVE FINGERS SPREAD",
    "bFIVE FINGERS SPREAD FOUR BENT;bHEEL FIVE FINGERS SPREAD FOUR BENT;bFIVE FINGERS SPREAD BENT",
    "bHEEL FIVE FINGERS SPREAD BENT;bFIVE FINGERS SPREAD THUMB FORWARD",
    "aHAND-CUP FIVE FINGERS SPREAD;eOPEN;aHAND-HINGE FIVE FINGERS SPREAD OPEN",
    "aHAND-OVAL FIVE FINGERS SPREAD;aHAND-FLAT FIVE FINGERS SPREAD HINGED;fTHUMB SIDE;fNO THUMB",
    "aHAND-FLAT;bBETWEEN PALM FACINGS;bHEEL;bTHUMB SIDE;bHEEL THUMB SIDE;bTHUMB BENT;cFORWARD",
    "bSPLIT INDEX THUMB SIDE;cCENTRE;dTHUMB SIDE;fBENT;cLITTLE;aHAND-CLAW;bTHUMB SIDE;bNO THUMB",
    "bTHUMB FORWARD;aHAND-HOOK CURLICUE;aHAND-HOOK;aHAND-CUP OPEN;aHAND-CUP;bOPEN THUMB SIDE",
    "bTHUMB SIDE;bOPEN NO THUMB;bNO THUMB;bOPEN THUMB FORWARD;bTHUMB FORWARD;aHAND-CURLICUE OPEN",
    "aHAND-CURLICUE;aHAND-CIRCLE;aHAND-OVAL;bTHUMB SIDE;bNO THUMB;bTHUMB FORWARD;aHAND-HINGE OPEN",
    "cTHUMB FORWARD;aHAND-HINGE;bd;bOPEN THUMB SIDE;bTHUMB SIDE;bOPEN NO THUMB;bNO THUMB",
    "bTHUMB SIDE TOUCHING INDEX;cBETWEEN MIDDLE RING;aHAND-ANGLE;aHAND-FIST INDEX MIDDLE RING",
    "aHAND-CIRCLE INDEX MIDDLE RING;aHAND-HINGE INDEX MIDDLE RING;aHAND-ANGLE INDEX MIDDLE RING",
    "aHAND-HINGE LITTLE;aHAND-FIST INDEX MIDDLE RING BENT;eCONJOINED",
    "aHAND-HINGE INDEX MIDDLE RING CONJOINED;aHAND-FIST LITTLE DOWN;dRIPPLE STRAIGHT;eCURVED",
    "dOTHERS CIRCLED;cUP;bTHUMB UNDER LITTLE UP;aHAND-CIRCLE LITTLE UP;aHAND-OVAL LITTLE UP",
    "aHAND-ANGLE LITTLE UP;aHAND-FIST LITTLE RAISED KNUCKLE;cBENT;cTOUCHES THUMB;cTHUMB",
    "aHAND-HINGE LITTLE THUMB;aHAND-FIST LITTLE INDEX THUMB;aHAND-HINGE LITTLE INDEX THUMB",
    "aHAND-ANGLE LITTLE INDEX THUMB INDEX THUMB OUT;fTHUMB;aHAND-FIST LITTLE INDEX",
    "aHAND-CIRCLE LITTLE INDEX;aHAND-HINGE LITTLE INDEX;aHAND-ANGLE LITTLE INDEX",
    "aHAND-FIST INDEX MIDDLE LITTLE;aHAND-CIRCLE INDEX MIDDLE LITTLE",
    "aHAND-HINGE INDEX MIDDLE LITTLE;bRING;aHAND-ANGLE INDEX MIDDLE LITTLE",
    "aHAND-FIST INDEX MIDDLE CROSS LITTLE;aHAND-CIRCLE INDEX MIDDLE CROSS LITTLE",
    "aHAND-FIST RING DOWN;aHAND-HINGE RING DOWN INDEX THUMB HOOK MIDDLE",
    "aHAND-ANGLE RING DOWN MIDDLE THUMB INDEX CROSS;aHAND-FIST RING UP;cRAISED KNUCKLE;cLITTLE",
    "aHAND-CIRCLE RING LITTLE;aHAND-OVAL RING LITTLE;aHAND-ANGLE RING LITTLE",
    "aHAND-FIST RING MIDDLE;dCONJOINED;dRAISED KNUCKLES;cINDEX;cTHUMB;aHAND-HOOK RING THUMB",
    "aHAND-FIST INDEX RING LITTLE;aHAND-CIRCLE INDEX RING LITTLE",
    "aHAND-CURLICUE INDEX RING LITTLE ON;aHAND-HOOK INDEX RING LITTLE OUT;eIN;eUNDER",
    "aHAND-CUP INDEX RING LITTLE;aHAND-HINGE INDEX RING LITTLE;aHAND-ANGLE INDEX RING LITTLE OUT",
    "dLITTLE;aHAND-FIST MIDDLE DOWN;aHAND-HINGE MIDDLE;aHAND-FIST MIDDLE UP;aHAND-CIRCLE MIDDLE UP",
    "aHAND-FIST MIDDLE RAISED KNUCKLE;cUP THUMB SIDE;aHAND-HOOK MIDDLE THUMB",
    "aHAND-FIST MIDDLE THUMB LITTLE;cLITTLE;cRING LITTLE;aHAND-CIRCLE MIDDLE RING LITTLE",
    "aHAND-CURLICUE MIDDLE RING LITTLE ON;aHAND-CUP MIDDLE RING LITTLE",
    "aHAND-HINGE MIDDLE RING LITTLE;aHAND-ANGLE MIDDLE RING LITTLE OUT;eIN;dLITTLE",
    "aHAND-CIRCLE MIDDLE RING LITTLE BENT;aHAND-CLAW MIDDLE RING LITTLE CONJOINED;fSIDE",
    "aHAND-HOOK MIDDLE RING LITTLE CONJOINED OUT;fIN;eCONJOINED;aHAND-HINGE INDEX HINGED",
    "aHAND-FIST INDEX THUMB SIDE;aHAND-HINGE INDEX THUMB SIDE",
    "aHAND-FIST INDEX THUMB SIDE THUMB DIAGONAL;fCONJOINED;fBENT;eINDEX BENT;eBOTH BENT",
    "eINDEX HINGE;dFORWARD INDEX STRAIGHT;fBENT;dHOOK;dCURLICUE;dCURVE THUMB INSIDE",
    "aHAND-CLAW INDEX THUMB CURVE THUMB INSIDE;aHAND-FIST INDEX THUMB CURVE THUMB UNDER;dCIRCLE",
    "aHAND-CUP INDEX THUMB;dOPEN;aHAND-HINGE INDEX THUMB OPEN;dLARGE;cTHUMB;dd",
    "aHAND-ANGLE INDEX THUMB OUT;dIN;cTHUMB;aHAND-FIST THUMB;cHEEL;cSIDE DIAGONAL;dCONJOINED;dBENT",
    "cFORWARD;cBETWEEN INDEX MIDDLE;dMIDDLE RING;dRING LITTLE;cUNDER TWO FINGERS;cOVER TWO FINGERS",
    "cUNDER t FINGERS;dFOUR FINGERS;cOVER FOUR RAISED KNUCKLES;aHAND-FIST;bHEEL;aTOUCH SINGLE",
    "bMULTIPLE;bBETWEEN;aGRASP SINGLE;bMULTIPLE;bBETWEEN;aSTRIKE SINGLE;bMULTIPLE;bBETWEEN",
    "aBRUSH SINGLE;bMULTIPLE;bBETWEEN;aRUB SINGLE;bMULTIPLE;bBETWEEN;aSURFACE SYMBOLS;bBETWEEN",
    "aSQUEEZE LARGE SINGLE;bd SINGLE;bLARGE MULTIPLE;bd MULTIPLE;bSEQUENTIAL;aFLICK LARGE SINGLE",
    "bd SINGLE;bLARGE MULTIPLE;bd MULTIPLE;bSEQUENTIAL;aSQUEEZE FLICK ALTERNATING",
    "aMOVEMENT-HINGE UP DOWN LARGE;dd;cSEQUENTIAL;bDOWN SEQUENTIAL;bUP DOWN ALTERNATING LARGE;ed",
    "bSIDE TO SIDE SCISSORS;aMOVEMENT-WALLPLANE FINGER CONTACT;aMOVEMENT-FLOORPLANE FINGER CONTACT",
    "aMOVEMENT-WALLPLANE SINGLE STRAIGHT d;dMEDIUM;dLARGE;dLARGEST;cWRIST FLEX;bl STRAIGHT",
    "cWRIST FLEX;cALTERNATING;dWRIST FLEX;bCROSS;bTRIPLE STRAIGHT MOVEMENT;cWRIST FLEX",
    "cALTERNATING;dWRIST FLEX;bBEND d;cMEDIUM;cLARGE;bCORNER d;cMEDIUM;cLARGE;cROTATION;bCHECK d",
    "cMEDIUM;cLARGE;bBOX d;cMEDIUM;cLARGE;bZIGZAG d;cMEDIUM;cLARGE;bPEAKS d;cMEDIUM;cLARGE",
    "aTRAVEL-WALLPLANE ROTATION-WALLPLANE SINGLE;cl;cALTERNATING;bROTATION-FLOORPLANE SINGLE;cl",
    "cALTERNATING;bSHAKING;bARM SPIRAL SINGLE;dl;dTRIPLE;aMOVEMENT-DIAGONAL AWAY d;cMEDIUM;cLARGE",
    "cLARGEST;bTOWARDS d;cMEDIUM;cLARGE;cLARGEST;bBETWEEN AWAY d;dMEDIUM;dLARGE;dLARGEST",
    "cTOWARDS d;dMEDIUM;dLARGE;dLARGEST;aMOVEMENT-FLOORPLANE SINGLE STRAIGHT d;dMEDIUM;dLARGE",
    "dLARGEST;cWRIST FLEX;bl STRAIGHT;cWRIST FLEX;cALTERNATING;dWRIST FLEX;bCROSS",
    "bTRIPLE STRAIGHT MOVEMENT;cWRIST FLEX;cALTERNATING MOVEMENT;dWRIST FLEX;bBEND;bCORNER d",
    "cMEDIUM;cLARGE;bCHECK;bBOX d;cMEDIUM;cLARGE;bZIGZAG d;cMEDIUM;cLARGE;bPEAKS d;cMEDIUM;cLARGE",
    "aTRAVEL-FLOORPLANE ROTATION-FLOORPLANE SINGLE;cl;cALTERNATING;bROTATION-WALLPLANE SINGLE;cl",
    "cALTERNATING;bSHAKING;aMOVEMENT-WALLPLANE CURVE QUARTER d;dMEDIUM;dLARGE;dLARGEST",
    "cHALF-CIRCLE d;dMEDIUM;dLARGE;dLARGEST;cTHREE-QUARTER CIRCLE d;eMEDIUM;bHUMP d;cMEDIUM;cLARGE",
    "bLOOP d;cMEDIUM;cLARGE;cd l;bWAVE CURVE l d;eMEDIUM;eLARGE;dTRIPLE d;eMEDIUM;eLARGE",
    "bCURVE THEN STRAIGHT;bCURVED CROSS d;dMEDIUM;aROTATION-WALLPLANE SINGLE;bl;bALTERNATE",
    "aMOVEMENT-WALLPLANE SHAKING;bCURVE HITTING FRONT WALL;bHUMP HITTING FRONT WALL",
    "bLOOP HITTING FRONT WALL;bWAVE HITTING FRONT WALL",
    "aROTATION-WALLPLANE SINGLE HITTING FRONT WALL;bl HITTING FRONT WALL",
    "bALTERNATING HITTING FRONT WALL;aMOVEMENT-WALLPLANE CURVE HITTING CHEST;bHUMP HITTING CHEST",
    "bLOOP HITTING CHEST;bWAVE HITTING CHEST;aROTATION-WALLPLANE SINGLE HITTING CHEST",
    "bl HITTING CHEST;bALTERNATING HITTING CHEST;aMOVEMENT-WALLPLANE WAVE DIAGONAL PATH d;eMEDIUM",
    "eLARGE;aMOVEMENT-FLOORPLANE CURVE HITTING CEILING d;eLARGE;bHUMP HITTING CEILING d l;eLARGE l",
    "ed TRIPLE;eLARGE TRIPLE;bLOOP HITTING CEILING d SINGLE;eLARGE SINGLE;ed l;eLARGE l",
    "bWAVE HITTING CEILING d;eLARGE;aROTATION-FLOORPLANE SINGLE HITTING CEILING;bl HITTING CEILING",
    "bALTERNATING HITTING CEILING;aMOVEMENT-FLOORPLANE CURVE HITTING FLOOR d;eLARGE",
    "bHUMP HITTING FLOOR d l;eLARGE l;eTRIPLE d TRIPLE;fLARGE TRIPLE;bLOOP HITTING FLOOR d SINGLE",
    "eLARGE SINGLE;ed l;eLARGE l;bWAVE HITTING FLOOR d;eLARGE",
    "aROTATION-FLOORPLANE SINGLE HITTING FLOOR;bl HITTING FLOOR;bALTERNATING HITTING FLOOR",
    "aMOVEMENT-FLOORPLANE CURVE d;cMEDIUM;cLARGE;cLARGEST;cCOMBINED;bHUMP d;bLOOP d;bWAVE SNAKE;cd",
    "cLARGE;aROTATION-FLOORPLANE SINGLE;bl;bALTERNATING;aMOVEMENT-FLOORPLANE SHAKING PARALLEL",
    "aMOVEMENT-WALLPLANE ARM CIRCLE d SINGLE;dMEDIUM SINGLE;dd l;dMEDIUM l",
    "aMOVEMENT-FLOORPLANE ARM CIRCLE HITTING WALL d SINGLE;fMEDIUM SINGLE;fLARGE SINGLE;fd l",
    "fMEDIUM l;fLARGE l;aMOVEMENT-WALLPLANE WRIST CIRCLE FRONT SINGLE;el",
    "aMOVEMENT-FLOORPLANE WRIST CIRCLE HITTING WALL SINGLE;fl",
    "aMOVEMENT-WALLPLANE FINGER CIRCLES SINGLE;dl",
    "aMOVEMENT-FLOORPLANE FINGER CIRCLES HITTING WALL SINGLE;fl;aDYNAMIC ARROWHEAD d;cLARGE;bFAST",
    "bSLOW;bTENSE;bRELAXED;bSIMULTANEOUS;cALTERNATING;bEVERY OTHER TIME;bGRADUAL;aHEAD;bRIM",
    "bMOVEMENT-WALLPLANE STRAIGHT;cTILT;bMOVEMENT-FLOORPLANE STRAIGHT;bMOVEMENT-WALLPLANE CURVE",
    "bMOVEMENT-FLOORPLANE CURVE;bMOVEMENT CIRCLE;aFACE DIRECTION POSITION NOSE FORWARD TILTING",
    "eUP OR DOWN;hTILTING;aEYEBROWS STRAIGHT UP;cNEUTRAL;cDOWN;aDREAMY EYEBROWS NEUTRAL DOWN",
    "cDOWN NEUTRAL;cUP NEUTRAL;cNEUTRAL UP;aFOREHEAD NEUTRAL;bCONTACT;bWRINKLED;aEYES OPEN",
    "bSQUEEZED;bCLOSED;aEYE BLINK SINGLE;cMULTIPLE;aEYES HALF OPEN;bWIDE OPEN;bHALF CLOSED",
    "bWIDENING MOVEMENT;aEYE WINK;aEYELASHES UP;bDOWN;bFLUTTERING;aEYEGAZE-WALLPLANE STRAIGHT;cl",
    "cALTERNATING;aEYEGAZE-FLOORPLANE STRAIGHT;cl;cALTERNATING;aEYEGAZE-WALLPLANE CURVED",
    "aEYEGAZE-FLOORPLANE CURVED;aEYEGAZE-WALLPLANE CIRCLING;aCHEEKS PUFFED;bNEUTRAL;bSUCKED",
    "aTENSE CHEEKS HIGH;cMIDDLE;cLOW;aEARS;aNOSE NEUTRAL;bCONTACT;bWRINKLES;bWIGGLES",
    "aAIR BLOWING OUT;bSUCKING IN;bBLOW d ROTATIONS;bSUCK d ROTATIONS;aBREATH INHALE;bEXHALE",
    "aMOUTH CLOSED NEUTRAL;cFORWARD;cCONTACT;bSMILE;cWRINKLED;cOPEN;bFROWN;cWRINKLED;cOPEN",
    "bOPEN CIRCLE;cFORWARD;cWRINKLED;cOVAL;dWRINKLED;dYAWN;cRECTANGLE;dWRINKLED;dYAWN;bKISS",
    "cFORWARD;cWRINKLED;bTENSE;cFORWARD;cSUCKED;aLIPS PRESSED TOGETHER;aLIP LOWER OVER UPPER",
    "bUPPER OVER LOWER;aMOUTH CORNERS;bWRINKLES SINGLE;cl;aTONGUE STICKING OUT FAR;bLICKING LIPS",
    "bTIP BETWEEN LIPS;cTOUCHING INSIDE MOUTH;bINSIDE MOUTH RELAXED;bMOVES AGAINST CHEEK",
    "bCENTRE STICKING OUT;cINSIDE MOUTH;aTEETH;bMOVEMENT;bON TONGUE;dMOVEMENT;cLIPS;dMOVEMENT",
    "bBITE LIPS;aMOVEMENT-WALLPLANE JAW;aMOVEMENT-FLOORPLANE JAW;aNECK;aHAIR;aEXCITEMENT",
    "aSHOULDER HIP SPINE;cPOSITIONS;aWALLPLANE SHOULDER HIP MOVE;aFLOORPLANE SHOULDER HIP MOVE",
    "aSHOULDER TILTING FROM WAIST;aTORSO-WALLPLANE STRAIGHT STRETCH;bCURVED BEND",
    "aTORSO-FLOORPLANE TWISTING;aUPPER BODY TILTING FROM HIP JOINTS;aLIMB COMBINATION;bLENGTH-1;+6",
    "aFINGER;aLOCATION-WALLPLANE SPACE;aLOCATION-FLOORPLANE SPACE;aLOCATION HEIGHT;bWIDTH;bDEPTH",
    "bHEAD NECK;bTORSO;bLIMBS DIGITS;aCOMMA;aFULL STOP;aSEMICOLON;aCOLON;aPARENTHESIS;-15",
    "aFILL MODIFIER-2;+4;-1;aROTATION MODIFIER-2;+14"]),
   (0x1df00, [
    "LATIN d a FENG DIGRAPH b TRILL;cREVERSED SCRIPT G;aa d c TURNED G;ad a REVERSED K",
    "aa d c L b BELT;ad a LEZH b RETROFLEX HOOK;cTURNED Y b BELT;cREVERSED ENG",
    "cTURNED R b LONG LEG p RETROFLEX HOOK;cT b HOOK p RETROFLEX HOOK",
    "aa RETROFLEX CLICK b RETROFLEX HOOK;ad a ESH b l BAR;gp CURL;cTURNED T b CURL",
    "aa INVERTED GLOTTAL STOP b CURL;bSTRETCHED C b CURL;bd c TURNED K;ad a L b FISHHOOK",
    "cDEZH DIGRAPH b PALATAL HOOK;cL b BELT p PALATAL HOOK;cENG b PALATAL HOOK",
    "cTURNED R b PALATAL HOOK;cR b FISHHOOK p PALATAL HOOK;cTESH DIGRAPH b PALATAL HOOK",
    "cEZH b PALATAL HOOK;cDEZH DIGRAPH b RETROFLEX HOOK;cI b v p RETROFLEX HOOK",
    "cO b RETROFLEX HOOK;cTESH DIGRAPH b RETROFLEX HOOK;cC b RETROFLEX HOOK;cS b CURL"]),
   (0x1e000, [
    "COMBINING GLAGOLITIC a AZU;cBUKY;cVEDE;cGLAGOLI;cDOBRO;cYESTU;cZHIVETE;-1;cZEMLJA;cIZHE",
    "cs IZHE;cI;cDJERVI;cKAKO;cLJUDIJE;cMYSLITE;cNASHI;cONU;cPOKOJI;cRITSI;cSLOVO;cTVRIDO;cUKU",
    "cFRITU;cHERU;-2;cSHTA;cTSI;cCHRIVI;cSHA;cYERU;cYERI;cYATI;-1;cYU;cd YUS;-1;cYO;cIOTATED d YUS",
    "cBIG YUS;cIOTATED BIG YUS;cFITA"]),
   (0x1e100, [
    "NYIAKENG PUACHUE HMONG a MA;dTSA;dNTA;dTA;dHA;dNA;dXA;dNKA;dCA;dLA;dSA;dZA;dNCA;dNTSA;dKA;dDA",
    "dNYA;dNRA;dVA;dNTXA;dTXA;dFA;dRA;dQA;dYA;dNQA;dPA;dXYA;dNPA;dDLA;dNPLA;dHAH;dMLA;dPLA;dGA",
    "dRRA;dA;dAA;dI;dU;dO;dOO;dE;dEE;dW;-3;cTONE-B;cTONE-M;cTONE-J;cTONE-V;cTONE-S;cTONE-G;cTONE-D",
    "cg FOR PERSON;eTHING;eLOCATION;eANIMAL;eINVERTEBRATE;dXW XW;cSYLLABLE LENGTHENER;-2",
    "cDIGIT ZERO;dONE;dTWO;dt;dFOUR;dFIVE;dSIX;dSEVEN;dEIGHT;dNINE;-4;cLOGOGRAM NYAJ;cCIRCLED CA"]),
   (0x1e290, [
    "TOTO a PA;bBA;bTA;bDA;bKA;bGA;bMA;bNA;bNGA;bSA;bCHA;bYA;bWA;bJA;bHA;bRA;bLA;bI;bBREATHY I;bIU",
    "bBREATHY IU;bU;bE;bBREATHY E;bEO;bBREATHY EO;bO;bAE;bBREATHY AE;bA;ag RISING TONE"]),
   (0x1e2c0, [
    "WANCHO a AA;bA;bBA;bCA;bDA;bGA;bYA;bPHA;bLA;bNA;bPA;bTA;bTHA;bFA;bSA;bSHA;bJA;bZA;bWA;bVA;bKA",
    "bO;bAU;bRA;bMA;bKHA;bHA;bE;bI;bNGA;bU;bLLHA;bTSA;bTRA;bONG;bAANG;bANG;bING;bON;bEN;bAAN;bNYA",
    "bUEN;bYIH;aTONE TUP;bTUPNI;bKOI;bKOINI;aDIGIT ZERO;bONE;bTWO;bt;bFOUR;bFIVE;bSIX;bSEVEN",
    "bEIGHT;bNINE;-5;aNGUN g"]),
   (0x1e7e0, [
    "ETHIOPIC SYLLABLE HHYA;bHHYU;bHHYI;bHHYAA;bHHYEE;bHHYE;bHHYO;-1;bGURAGE HHWA;bHHWI;bHHWEE",
    "bHHWE;-1;bGURAGE MWI;cMWEE;-1;cQWI;cQWEE;cQWE;cBWI;cBWEE;cKWI;cKWEE;cKWE;cGWI;cGWEE;cGWE;cFWI",
    "cFWEE;cPWI;cPWEE;-1;MENDE KIKAKUI SYLLABLE M001 KI;cM002 KA;cM003 KU;cM065 KEE;cM095 KE",
    "cM076 KOO;cM048 KO;cM179 KUA;cM004 WI;cM005 WA;cM006 WU;cM126 WEE;cM118 WE;cM114 WOO;cM045 WO",
    "cM194 WUI;cM143 WEI;cM061 WVI;cM049 WVA;cM139 WVE;cM007 MIN;cM008 MAN;cM009 MUN;cM059 MEN",
    "cM094 MON;cM154 MUAN;cM189 MUEN;cM010 BI;cM011 BA;cM012 BU;cM150 BEE;cM097 BE;cM103 BOO",
    "cM138 BO;cM013 I;cM014 A;cM015 U;cM163 EE;cM100 E;cM165 OO;cM147 O;cM137 EI;cM131 IN;cM135 IN",
    "cM195 AN;cM178 EN;cM019 SI;cM020 SA;cM021 SU;cM162 SEE;cM116 SE;cM136 SOO;cM079 SO;cM196 SIA",
    "cM025 LI;cM026 LA;cM027 LU;cM084 LEE;cM073 LE;cM054 LOO;cM153 LO;cM110 LONG LE;cM016 DI",
    "cM017 DA;cM018 DU;cM089 DEE;cM180 DOO;cM181 DO;cM022 TI;cM023 TA;cM024 TU;cM091 TEE;cM055 TE",
    "cM104 TOO;cM069 TO;cM028 JI;cM029 JA;cM030 JU;cM157 JEE;cM113 JE;cM160 JOO;cM063 JO",
    "cM175 LONG JO;cM031 YI;cM032 YA;cM033 YU;cM109 YEE;cM080 YE;cM141 YOO;cM121 YO;cM034 FI",
    "cM035 FA;cM036 FU;cM078 FEE;cM075 FE;cM133 FOO;cM088 FO;cM197 FUA;cM101 FAN;cM037 NIN",
    "cM038 NAN;cM039 NUN;cM117 NEN;cM169 NON;cM176 HI;cM041 HA;cM186 HU;cM040 HEE;cM096 HE",
    "cM042 HOO;cM140 HO;cM083 HEEI;cM128 HOOU;cM053 HIN;cM130 HAN;cM087 HUN;cM052 HEN;cM193 HON",
    "cM046 HUAN;cM090 NGGI;cM043 NGGA;cM082 NGGU;cM115 NGGEE;cM146 NGGE;cM156 NGGOO;cM120 NGGO",
    "cM159 NGGAA;cM127 NGGUA;cM086 LONG NGGE;cM106 LONG NGGOO;cM183 LONG NGGO;cM155 GI;cM111 GA",
    "cM168 GU;cM190 GEE;cM166 GUEI;cM167 GUAN;cM184 NGEN;cM057 NGON;cM177 NGUAN;cM068 PI;cM099 PA",
    "cM050 PU;cM081 PEE;cM051 PE;cM102 POO;cM066 PO;cM145 MBI;cM062 MBA;cM122 MBU;cM047 MBEE",
    "cM188 MBEE;cM072 MBE;cM172 MBOO;cM174 MBO;cM187 MBUU;cM161 LONG MBE;cM105 LONG MBOO",
    "cM142 LONG MBO;cM132 KPI;cM092 KPA;cM074 KPU;cM044 KPEE;cM108 KPE;cM112 KPOO;cM158 KPO",
    "cM124 GBI;cM056 GBA;cM148 GBU;cM093 GBEE;cM107 GBE;cM071 GBOO;cM070 GBO;cM171 RA;cM123 NDI",
    "cM129 NDA;cM125 NDU;cM191 NDEE;cM119 NDE;cM067 NDOO;cM064 NDO;cM152 NJA;cM192 NJU;cM149 NJEE",
    "cM134 NJOO;cM182 VI;cM185 VA;cM151 VU;cM173 VEE;cM085 VE;cM144 VOO;cM077 VO;cM164 NYIN",
    "cM058 NYAN;cM170 NYUN;cM098 NYEN;cM060 NYON;-2;bDIGIT ONE;cTWO;ct;cFOUR;cFIVE;cSIX;cSEVEN",
    "cEIGHT;cNINE;bCOMBINING NUMBER TEENS;dTENS;dHUNDREDS;dTHOUSANDS;dTEN THOUSANDS",
    "dHUNDRED THOUSANDS;dMILLIONS"]),
   (0x1e900, [
    "ADLAM c a ALIF;cDAALI;cLAAM;cMIIM;cBA;cSINNYIIYHE;cPE;cBHE;cRA;cE;cFA;cI;cO;cDHA;cYHE;cWAW",
    "cNUN;cKAF;cYA;cU;cJIIM;cCHI;cHA;cQAAF;cGA;cNYA;cTU;cNHA;cVA;cKHA;cGBE;cZAL;cKPO;cSHA",
    "ad a ALIF;cDAALI;cLAAM;cMIIM;cBA;cSINNYIIYHE;cPE;cBHE;cRA;cE;cFA;cI;cO;cDHA;cYHE;cWAW;cNUN",
    "cKAF;cYA;cU;cJIIM;cCHI;cHA;cQAAF;cGA;cNYA;cTU;cNHA;cVA;cKHA;cGBE;cZAL;cKPO;cSHA",
    "aALIF LENGTHENER;aVOWEL LENGTHENER;aGEMINATION MARK;aHAMZA;aCONSONANT MODIFIER",
    "aGEMINATE CONSONANT MODIFIER;aNUKTA;aNASALIZATION MARK;-4;aDIGIT ZERO;bONE;bTWO;bt;bFOUR",
    "bFIVE;bSIX;bSEVEN;bEIGHT;bNINE;-4;as EXCLAMATION MARK;bQUESTION MARK"]),
   (0x1ec71, [
    "INDIC SIYAQ NUMBER ONE;cTWO;ct;cFOUR;cFIVE;cSIX;cSEVEN;cEIGHT;cNINE;cTEN;cTWENTY;cTHIRTY",
    "cFORTY;cFIFTY;cSIXTY;cSEVENTY;cEIGHTY;cNINETY;cONE HUNDRED;cTWO HUNDRED;ct HUNDRED",
    "cFOUR HUNDRED;cFIVE HUNDRED;cSIX HUNDRED;cSEVEN HUNDRED;cEIGHT HUNDRED;cNINE HUNDRED",
    "cONE THOUSAND;cTWO THOUSAND;ct THOUSAND;cFOUR THOUSAND;cFIVE THOUSAND;cSIX THOUSAND",
    "cSEVEN THOUSAND;cEIGHT THOUSAND;cNINE THOUSAND;cTEN THOUSAND;cTWENTY THOUSAND",
    "cTHIRTY THOUSAND;cFORTY THOUSAND;cFIFTY THOUSAND;cSIXTY THOUSAND;cSEVENTY THOUSAND",
    "cEIGHTY THOUSAND;cNINETY THOUSAND;cLAKH;cLAKHAN;bLAKH MARK;bNUMBER KAROR;cKARORAN",
    "cPREFIXED ONE;dTWO;dt;dFOUR;dFIVE;dSIX;dSEVEN;dEIGHT;dNINE;bPLACEHOLDER;bFRACTION ONE QUARTER",
    "dHALF;ct QUARTERS;bRUPEE MARK;bNUMBER ALTERNATE ONE;dTWO;dTEN THOUSAND;bALTERNATE LAKH MARK"]),
   (0x1ed01, [
    "OTTOMAN SIYAQ NUMBER ONE;cTWO;ct;cFOUR;cFIVE;cSIX;cSEVEN;cEIGHT;cNINE;cTEN;cTWENTY;cTHIRTY",
    "cFORTY;cFIFTY;cSIXTY;cSEVENTY;cEIGHTY;cNINETY;cONE HUNDRED;cTWO HUNDRED;ct HUNDRED",
    "cFOUR HUNDRED;cFIVE HUNDRED;cSIX HUNDRED;cSEVEN HUNDRED;cEIGHT HUNDRED;cNINE HUNDRED",
    "cONE THOUSAND;cTWO THOUSAND;ct THOUSAND;cFOUR THOUSAND;cFIVE THOUSAND;cSIX THOUSAND",
    "cSEVEN THOUSAND;cEIGHT THOUSAND;cNINE THOUSAND;cTEN THOUSAND;cTWENTY THOUSAND",
    "cTHIRTY THOUSAND;cFORTY THOUSAND;cFIFTY THOUSAND;cSIXTY THOUSAND;cSEVENTY THOUSAND",
    "cEIGHTY THOUSAND;cNINETY THOUSAND;bMARRATAN;bALTERNATE NUMBER TWO;dt;dFOUR;dFIVE;dSIX;dSEVEN",
    "dEIGHT;dNINE;dTEN;dFOUR HUNDRED;dSIX HUNDRED;dTWO THOUSAND;dTEN THOUSAND;bFRACTION ONE HALF",
    "dSIXTH"]),
   (0x1ee00, [
    "ARABIC MATHEMATICAL ALEF;bBEH;bJEEM;bDAL;-1;bWAW;bZAIN;bHAH;bTAH;bYEH;bKAF;bLAM;bMEEM;bNOON",
    "bSEEN;bAIN;bFEH;bSAD;bQAF;bREH;bSHEEN;bTEH;bTHEH;bKHAH;bTHAL;bDAD;bZAH;bGHAIN;bDOTLESS BEH",
    "cNOON;cFEH;cQAF;-1;bs BEH;cJEEM;-1;cHEH;-2;cHAH;-1;cYEH;cKAF;cLAM;cMEEM;cNOON;cSEEN;cAIN;cFEH",
    "cSAD;cQAF;-1;cSHEEN;cTEH;cTHEH;cKHAH;-1;cDAD;-1;cGHAIN;-6;bTAILED JEEM;-4;cHAH;-1;cYEH;-1",
    "cLAM;-1;cNOON;cSEEN;cAIN;-1;cSAD;cQAF;-1;cSHEEN;-2;cKHAH;-1;cDAD;-1;cGHAIN;-1;cDOTLESS NOON",
    "-1;dQAF;-1;bSTRETCHED BEH;cJEEM;-1;cHEH;-2;cHAH;cTAH;cYEH;cKAF;-1;cMEEM;cNOON;cSEEN;cAIN;cFEH",
    "cSAD;cQAF;-1;cSHEEN;cTEH;cTHEH;cKHAH;-1;cDAD;cZAH;cGHAIN;cDOTLESS BEH;-1;dFEH;-1;bLOOPED ALEF",
    "cBEH;cJEEM;cDAL;cHEH;cWAW;cZAIN;cHAH;cTAH;cYEH;-1;cLAM;cMEEM;cNOON;cSEEN;cAIN;cFEH;cSAD;cQAF",
    "cREH;cSHEEN;cTEH;cTHEH;cKHAH;cTHAL;cDAD;cZAH;cGHAIN;-5;bDOUBLE-STRUCK BEH;cJEEM;cDAL;-1;cWAW",
    "cZAIN;cHAH;cTAH;cYEH;-1;cLAM;cMEEM;cNOON;cSEEN;cAIN;cFEH;cSAD;cQAF;cREH;cSHEEN;cTEH;cTHEH",
    "cKHAH;cTHAL;cDAD;cZAH;cGHAIN"]),
   (0x1eef0, ["ARABIC MATHEMATICAL OPERATOR MEEM b HAH b TATWEEL;cHAH b DAL"]),
   (0x1f000, [
    "MAHJONG TILE EAST WIND;bSOUTH WIND;bWEST WIND;bNORTH WIND;bRED DRAGON;bGREEN DRAGON;bz DRAGON",
    "bONE OF CHARACTERS;bTWO OF CHARACTERS;bt OF CHARACTERS;bFOUR OF CHARACTERS",
    "bFIVE OF CHARACTERS;bSIX OF CHARACTERS;bSEVEN OF CHARACTERS;bEIGHT OF CHARACTERS",
    "bNINE OF CHARACTERS;bONE OF BAMBOOS;bTWO OF BAMBOOS;bt OF BAMBOOS;bFOUR OF BAMBOOS",
    "bFIVE OF BAMBOOS;bSIX OF BAMBOOS;bSEVEN OF BAMBOOS;bEIGHT OF BAMBOOS;bNINE OF BAMBOOS",
    "bONE OF CIRCLES;bTWO OF CIRCLES;bt OF CIRCLES;bFOUR OF CIRCLES;bFIVE OF CIRCLES",
    "bSIX OF CIRCLES;bSEVEN OF CIRCLES;bEIGHT OF CIRCLES;bNINE OF CIRCLES;bPLUM;bORCHID;bBAMBOO",
    "bCHRYSANTHEMUM;bSPRING;bSUMMER;bAUTUMN;bWINTER;bJOKER;bBACK;-4;DOMINO TILE y BACK",
    "bHORIZONTAL-00-00;+6;bHORIZONTAL-01-00;+6;bHORIZONTAL-02-00;+6;bHORIZONTAL-03-00;+6",
    "bHORIZONTAL-04-00;+6;bHORIZONTAL-05-00;+6;bHORIZONTAL-06-00;+6;bq BACK;bVERTICAL-00-00;+6",
    "bVERTICAL-01-00;+6;bVERTICAL-02-00;+6;bVERTICAL-03-00;+6;bVERTICAL-04-00;+6;bVERTICAL-05-00",
    "+6;bVERTICAL-06-00;+6;-12;PLAYING CARD BACK;bACE OF SPADES;bTWO OF SPADES;bt OF SPADES",
    "bFOUR OF SPADES;bFIVE OF SPADES;bSIX OF SPADES;bSEVEN OF SPADES;bEIGHT OF SPADES",
    "bNINE OF SPADES;bTEN OF SPADES;bJACK OF SPADES;bKNIGHT OF SPADES;bQUEEN OF SPADES",
    "bKING OF SPADES;-2;bACE OF HEARTS;bTWO OF HEARTS;bt OF HEARTS;bFOUR OF HEARTS;bFIVE OF HEARTS",
    "bSIX OF HEARTS;bSEVEN OF HEARTS;bEIGHT OF HEARTS;bNINE OF HEARTS;bTEN OF HEARTS",
    "bJACK OF HEARTS;bKNIGHT OF HEARTS;bQUEEN OF HEARTS;bKING OF HEARTS;bRED JOKER;-1",
    "bACE OF DIAMONDS;bTWO OF DIAMONDS;bt OF DIAMONDS;bFOUR OF DIAMONDS;bFIVE OF DIAMONDS",
    "bSIX OF DIAMONDS;bSEVEN OF DIAMONDS;bEIGHT OF DIAMONDS;bNINE OF DIAMONDS;bTEN OF DIAMONDS",
    "bJACK OF DIAMONDS;bKNIGHT OF DIAMONDS;bQUEEN OF DIAMONDS;bKING OF DIAMONDS;bx JOKER;-1",
    "bACE OF CLUBS;bTWO OF CLUBS;bt OF CLUBS;bFOUR OF CLUBS;bFIVE OF CLUBS;bSIX OF CLUBS",
    "bSEVEN OF CLUBS;bEIGHT OF CLUBS;bNINE OF CLUBS;bTEN OF CLUBS;bJACK OF CLUBS;bKNIGHT OF CLUBS",
    "bQUEEN OF CLUBS;bKING OF CLUBS;bz JOKER;bFOOL;bTRUMP-1;+20;-10;DIGIT ZERO FULL STOP;bCOMMA",
    "aONE COMMA;aTWO COMMA;at COMMA;aFOUR COMMA;aFIVE COMMA;aSIX COMMA;aSEVEN COMMA;aEIGHT COMMA",
    "aNINE COMMA;DINGBAT CIRCLED SANS-SERIF DIGIT ZERO;aNEGATIVE CIRCLED SANS-SERIF DIGIT ZERO",
    "CIRCLED ZERO b SLASH;aANTICLOCKWISE f;aDOLLAR g b OVERLAID BACKSLASH",
    "PARENTHESIZED LATIN c a A;dB;dC;dD;dE;dF;dG;dH;dI;dJ;dK;dL;dM;dN;dO;dP;dQ;dR;dS;dT;dU;dV;dW",
    "dX;dY;dZ;TORTOISE SHELL BRACKETED LATIN c a S;CIRCLED ITALIC LATIN c a C;eR;aCD;aWZ",
    "COPYLEFT w;SQUARED LATIN c a A;dB;dC;dD;dE;dF;dG;dH;dI;dJ;dK;dL;dM;dN;dO;dP;dQ;dR;dS;dT;dU;dV",
    "dW;dX;dY;dZ;aHV;aMV;aSD;aSS;aPPV;aWC;NEGATIVE CIRCLED LATIN c a A;eB;eC;eD;eE;eF;eG;eH;eI;eJ",
    "eK;eL;eM;eN;eO;eP;eQ;eR;eS;eT;eU;eV;eW;eX;eY;eZ;RAISED MC g;aMD g;aMR g;CIRCLED CC",
    "aC b OVERLAID BACKSLASH;aHUMAN FIGURE;NEGATIVE SQUARED LATIN c a A;eB;eC;eD;eE;eF;eG;eH;eI;eJ",
    "eK;eL;eM;eN;eO;eP;eQ;eR;eS;eT;eU;eV;eW;eX;eY;eZ;CROSSED NEGATIVE SQUARED LATIN c a P",
    "NEGATIVE SQUARED IC;bPA;bSA;bAB;bWC;SQUARE DJ;SQUARED CL;aCOOL;aFREE;aID;aNEW;aNG;aOK;aSOS",
    "aUP b EXCLAMATION MARK;aVS;at D;aSECOND SCREEN;aTWO K;aFOUR K;aEIGHT K;aFIVE POINT ONE",
    "aSEVEN POINT ONE;aTWENTY-TWO POINT TWO;aSIXTY P;aONE HUNDRED TWENTY P;aLATIN d a D;aHC;aHDR",
    "aHI-RES;aLOSSLESS;aSHV;aUHD;aVOD;MASK WORK w"]),
   (0x1f1e6, [
    "REGIONAL INDICATOR w a A;dB;dC;dD;dE;dF;dG;dH;dI;dJ;dK;dL;dM;dN;dO;dP;dQ;dR;dS;dT;dU;dV;dW;dX",
    "dY;dZ;SQUARE HIRAGANA HOKA;SQUARED KATAKANA KOKO;bSA;-13;aCJK UNIFIED IDEOGRAPH-624B",
    "cIDEOGRAPH-5B57;cIDEOGRAPH-53CC;aKATAKANA DE;aCJK UNIFIED IDEOGRAPH-4E8C;cIDEOGRAPH-591A",
    "cIDEOGRAPH-89E3;cIDEOGRAPH-5929;cIDEOGRAPH-4EA4;cIDEOGRAPH-6620;cIDEOGRAPH-7121",
    "cIDEOGRAPH-6599;cIDEOGRAPH-524D;cIDEOGRAPH-5F8C;cIDEOGRAPH-518D;cIDEOGRAPH-65B0",
    "cIDEOGRAPH-521D;cIDEOGRAPH-7D42;cIDEOGRAPH-751F;cIDEOGRAPH-8CA9;cIDEOGRAPH-58F0",
    "cIDEOGRAPH-5439;cIDEOGRAPH-6F14;cIDEOGRAPH-6295;cIDEOGRAPH-6355;cIDEOGRAPH-4E00",
    "cIDEOGRAPH-4E09;cIDEOGRAPH-904A;cIDEOGRAPH-5DE6;cIDEOGRAPH-4E2D;cIDEOGRAPH-53F3",
    "cIDEOGRAPH-6307;cIDEOGRAPH-8D70;cIDEOGRAPH-6253;cIDEOGRAPH-7981;cIDEOGRAPH-7A7A",
    "cIDEOGRAPH-5408;cIDEOGRAPH-6E80;cIDEOGRAPH-6709;cIDEOGRAPH-6708;cIDEOGRAPH-7533",
    "cIDEOGRAPH-5272;cIDEOGRAPH-55B6;cIDEOGRAPH-914D;-4",
    "TORTOISE SHELL BRACKETED CJK UNIFIED IDEOGRAPH-672C;eIDEOGRAPH-4E09;eIDEOGRAPH-4E8C",
    "eIDEOGRAPH-5B89;eIDEOGRAPH-70B9;eIDEOGRAPH-6253;eIDEOGRAPH-76D7;eIDEOGRAPH-52DD",
    "eIDEOGRAPH-6557;-7;CIRCLED IDEOGRAPH ADVANTAGE;bACCEPT;-14;ROUNDED w FOR FU;cLU;cSHOU;cXI",
    "cSHUANGXI;cCAI"]),
   (0x1f300, [
    "CYCLONE;FOGGY;CLOSED UMBRELLA;NIGHT b STARS;SUNRISE OVER MOUNTAINS;SUNRISE;CITYSCAPE AT DUSK",
    "SUNSET OVER BUILDINGS;RAINBOW;BRIDGE AT NIGHT;WATER WAVE;VOLCANO;MILKY WAY",
    "EARTH GLOBE EUROPE-AFRICA;bAMERICAS;bASIA-AUSTRALIA;GLOBE b MERIDIANS;NEW MOON w",
    "WAXING CRESCENT MOON w;FIRST QUARTER MOON w;WAXING GIBBOUS MOON w;FULL MOON w",
    "WANING GIBBOUS MOON w;LAST QUARTER MOON w;WANING CRESCENT MOON w;CRESCENT MOON",
    "NEW MOON b FACE;FIRST QUARTER MOON b FACE;LAST QUARTER MOON b FACE;FULL MOON b FACE",
    "SUN b FACE;GLOWING STAR;SHOOTING STAR;THERMOMETER;BLACK DROPLET;WHITE SUN;bb d CLOUD",
    "bBEHIND CLOUD;db RAIN;CLOUD b RAIN;bSNOW;bLIGHTNING;bTORNADO;FOG;WIND BLOWING FACE;HOT DOG",
    "TACO;BURRITO;CHESTNUT;SEEDLING;EVERGREEN TREE;DECIDUOUS TREE;PALM TREE;CACTUS;HOT PEPPER",
    "TULIP;CHERRY BLOSSOM;ROSE;HIBISCUS;SUNFLOWER;BLOSSOM;EAR OF MAIZE;bRICE;HERB;FOUR LEAF CLOVER",
    "MAPLE LEAF;FALLEN LEAF;LEAF FLUTTERING IN WIND;MUSHROOM;TOMATO;AUBERGINE;GRAPES;MELON",
    "WATERMELON;TANGERINE;LEMON;BANANA;PINEAPPLE;RED APPLE;GREEN APPLE;PEAR;PEACH;CHERRIES",
    "STRAWBERRY;HAMBURGER;SLICE OF PIZZA;MEAT ON BONE;POULTRY LEG;RICE CRACKER;aBALL;COOKED RICE",
    "CURRY p RICE;STEAMING BOWL;SPAGHETTI;BREAD;FRENCH FRIES;ROASTED SWEET POTATO;DANGO;ODEN;SUSHI",
    "FRIED SHRIMP;FISH CAKE b SWIRL DESIGN;SOFT ICE CREAM;SHAVED ICE;ICE CREAM;DOUGHNUT;COOKIE",
    "CHOCOLATE BAR;CANDY;LOLLIPOP;CUSTARD;HONEY POT;SHORTCAKE;BENTO BOX;POT OF FOOD;COOKING",
    "FORK p KNIFE;TEACUP WITHOUT HANDLE;SAKE BOTTLE p CUP;WINE GLASS;COCKTAIL GLASS;TROPICAL DRINK",
    "BEER MUG;CLINKING BEER MUGS;BABY BOTTLE;FORK p KNIFE b PLATE;BOTTLE b POPPING CORK;POPCORN",
    "RIBBON;WRAPPED PRESENT;BIRTHDAY CAKE;JACK-O-LANTERN;CHRISTMAS TREE;FATHER CHRISTMAS;FIREWORKS",
    "FIREWORK SPARKLER;BALLOON;PARTY POPPER;CONFETTI BALL;TANABATA TREE;CROSSED FLAGS",
    "PINE DECORATION;JAPANESE DOLLS;CARP STREAMER;WIND CHIME;MOON VIEWING CEREMONY;SCHOOL SATCHEL",
    "GRADUATION CAP;HEART b TIP ON THE o;BOUQUET OF FLOWERS;MILITARY MEDAL;REMINDER RIBBON",
    "MUSICAL KEYBOARD b JACKS;STUDIO MICROPHONE;LEVEL SLIDER;CONTROL KNOBS",
    "BEAMED ASCENDING MUSICAL NOTES;aDESCENDING MUSICAL NOTES;FILM FRAMES;ADMISSION TICKETS",
    "CAROUSEL HORSE;FERRIS WHEEL;ROLLER COASTER;FISHING POLE p FISH;MICROPHONE;MOVIE CAMERA;CINEMA",
    "HEADPHONE;ARTIST PALETTE;TOP HAT;CIRCUS TENT;TICKET;CLAPPER BOARD;PERFORMING ARTS;VIDEO GAME",
    "DIRECT HIT;SLOT MACHINE;BILLIARDS;GAME DIE;BOWLING;FLOWER PLAYING CARDS;MUSICAL NOTE",
    "MULTIPLE MUSICAL NOTES;SAXOPHONE;GUITAR;MUSICAL KEYBOARD;TRUMPET;VIOLIN;MUSICAL SCORE",
    "RUNNING SHIRT b SASH;TENNIS RACQUET p BALL;SKI p SKI BOOT;BASKETBALL p HOOP;CHEQUERED FLAG",
    "SNOWBOARDER;RUNNER;SURFER;SPORTS MEDAL;TROPHY;HORSE RACING;AMERICAN FOOTBALL;RUGBY FOOTBALL",
    "SWIMMER;WEIGHT LIFTER;GOLFER;RACING MOTORCYCLE;aCAR;CRICKET BAT p BALL;VOLLEYBALL",
    "FIELD HOCKEY STICK p BALL;ICE HOCKEY STICK p PUCK;TABLE TENNIS PADDLE p BALL",
    "SNOW CAPPED MOUNTAIN;CAMPING;BEACH b UMBRELLA;BUILDING CONSTRUCTION;HOUSE BUILDINGS;CITYSCAPE",
    "DERELICT HOUSE BUILDING;CLASSICAL BUILDING;DESERT;aISLAND;NATIONAL PARK;STADIUM",
    "HOUSE BUILDING;ab GARDEN;OFFICE BUILDING;JAPANESE POST OFFICE;EUROPEAN POST OFFICE;HOSPITAL",
    "BANK;AUTOMATED TELLER MACHINE;HOTEL;LOVE HOTEL;CONVENIENCE STORE;SCHOOL;DEPARTMENT STORE",
    "FACTORY;IZAKAYA LANTERN;JAPANESE CASTLE;EUROPEAN CASTLE;WHITE PENNANT;BLACK PENNANT",
    "WAVING z FLAG;ax FLAG;ROSETTE;BLACK ROSETTE;LABEL;BADMINTON RACQUET p SHUTTLECOCK;BOW p f",
    "AMPHORA;EMOJI MODIFIER FITZPATRICK TYPE-1-2;cTYPE-3;+3;RAT;MOUSE;OX;WATER BUFFALO;COW;TIGER",
    "LEOPARD;RABBIT;CAT;DRAGON;CROCODILE;WHALE;SNAIL;SNAKE;HORSE;RAM;GOAT;SHEEP;MONKEY;ROOSTER",
    "CHICKEN;DOG;PIG;BOAR;ELEPHANT;OCTOPUS;SPIRAL SHELL;BUG;ANT;HONEYBEE;LADY BEETLE;FISH",
    "TROPICAL FISH;BLOWFISH;TURTLE;HATCHING CHICK;BABY CHICK;FRONT-FACING BABY CHICK;BIRD;PENGUIN",
    "KOALA;POODLE;DROMEDARY CAMEL;BACTRIAN CAMEL;DOLPHIN;MOUSE FACE;COW FACE;TIGER FACE",
    "RABBIT FACE;CAT FACE;DRAGON FACE;SPOUTING WHALE;HORSE FACE;MONKEY FACE;DOG FACE;PIG FACE",
    "FROG FACE;HAMSTER FACE;WOLF FACE;BEAR FACE;PANDA FACE;PIG NOSE;PAW PRINTS;CHIPMUNK;EYES;EYE",
    "EAR;NOSE;MOUTH;TONGUE;WHITE UP POINTING BACKHAND INDEX;aDOWN POINTING BACKHAND INDEX",
    "ao POINTING BACKHAND INDEX;ah POINTING BACKHAND INDEX;FISTED HAND g;WAVING HAND g;OK HAND g",
    "THUMBS UP g;aDOWN g;CLAPPING HANDS g;OPEN HANDS g;CROWN;WOMANS HAT;EYEGLASSES;NECKTIE;T-SHIRT",
    "JEANS;DRESS;KIMONO;BIKINI;WOMANS CLOTHES;PURSE;HANDBAG;POUCH;MANS SHOE;ATHLETIC SHOE",
    "HIGH-HEELED SHOE;WOMANS SANDAL;aBOOTS;FOOTPRINTS;BUST IN SILHOUETTE;BUSTS IN SILHOUETTE;BOY",
    "GIRL;MAN;WOMAN;FAMILY;MAN p WOMAN HOLDING HANDS;TWO MEN HOLDING HANDS;aWOMEN HOLDING HANDS",
    "POLICE OFFICER;WOMAN b BUNNY EARS;BRIDE b VEIL;PERSON b BLOND HAIR;MAN b GUA PI MAO;bTURBAN",
    "OLDER MAN;aWOMAN;BABY;CONSTRUCTION WORKER;PRINCESS;JAPANESE OGRE;aGOBLIN;GHOST;BABY ANGEL",
    "EXTRATERRESTRIAL ALIEN;ALIEN MONSTER;IMP;SKULL;INFORMATION DESK PERSON;GUARDSMAN;DANCER",
    "LIPSTICK;NAIL POLISH;FACE MASSAGE;HAIRCUT;BARBER POLE;SYRINGE;PILL;KISS MARK;LOVE a;RING",
    "GEM STONE;KISS;BOUQUET;COUPLE b HEART;WEDDING;BEATING HEART;BROKEN HEART;TWO HEARTS",
    "SPARKLING HEART;GROWING HEART;HEART b f;BLUE HEART;GREEN HEART;YELLOW HEART;PURPLE HEART",
    "HEART b RIBBON;REVOLVING HEARTS;HEART DECORATION;DIAMOND SHAPE b A DOT INSIDE",
    "ELECTRIC LIGHT BULB;ANGER w;BOMB;SLEEPING w;COLLISION w;SPLASHING SWEAT w;DROPLET;DASH w",
    "PILE OF POO;FLEXED BICEPS;DIZZY w;SPEECH BALLOON;THOUGHT BALLOON;WHITE FLOWER",
    "HUNDRED POINTS w;MONEY BAG;CURRENCY EXCHANGE;HEAVY DOLLAR g;CREDIT CARD;BANKNOTE b YEN g",
    "bDOLLAR g;bEURO g;bPOUND g;MONEY b WINGS;CHART b UPWARDS TREND p YEN g;SEAT;PERSONAL COMPUTER",
    "BRIEFCASE;MINIDISC;FLOPPY DISK;OPTICAL DISC;DVD;FILE FOLDER;OPEN FILE FOLDER;PAGE b CURL",
    "aFACING UP;CALENDAR;TEAR-OFF CALENDAR;CARD INDEX;CHART b UPWARDS TREND;bDOWNWARDS TREND",
    "BAR CHART;CLIPBOARD;PUSHPIN;ROUND PUSHPIN;PAPERCLIP;STRAIGHT RULER;TRIANGULAR RULER",
    "BOOKMARK TABS;LEDGER;NOTEBOOK;ab DECORATIVE COVER;CLOSED BOOK;OPEN BOOK;GREEN BOOK;BLUE BOOK",
    "ORANGE BOOK;BOOKS;NAME BADGE;SCROLL;MEMO;TELEPHONE RECEIVER;PAGER;FAX MACHINE",
    "SATELLITE ANTENNA;PUBLIC ADDRESS LOUDSPEAKER;CHEERING MEGAPHONE;OUTBOX TRAY;INBOX TRAY",
    "PACKAGE;E-MAIL w;INCOMING ENVELOPE;ENVELOPE b DOWNWARDS f i;CLOSED MAILBOX b LOWERED FLAG",
    "cRAISED FLAG;OPEN MAILBOX b RAISED FLAG;cLOWERED FLAG;POSTBOX;POSTAL HORN;NEWSPAPER",
    "MOBILE PHONE;bb k f AT o;VIBRATION MODE;MOBILE PHONE OFF;NO MOBILE PHONES;ANTENNA b BARS",
    "CAMERA;ab FLASH;VIDEO CAMERA;TELEVISION;RADIO;VIDEOCASSETTE;FILM PROJECTOR;PORTABLE STEREO",
    "PRAYER BEADS;TWISTED k ARROWS;CLOCKWISE k p r OPEN CIRCLE ARROWS;gb CIRCLED ONE OVERLAY",
    "aDOWNWARDS p UPWARDS OPEN CIRCLE ARROWS;ANTICLOCKWISE DOWNWARDS p UPWARDS OPEN CIRCLE ARROWS",
    "LOW BRIGHTNESS w;HIGH BRIGHTNESS w;SPEAKER b CANCELLATION v;SPEAKER;ab ONE SOUND WAVE",
    "bt SOUND WAVES;BATTERY;ELECTRIC PLUG;LEFT-POINTING MAGNIFYING GLASS",
    "RIGHT-POINTING MAGNIFYING GLASS;LOCK b INK PEN;CLOSED LOCK b KEY;KEY;LOCK;OPEN LOCK;BELL",
    "ab CANCELLATION v;BOOKMARK;LINK w;RADIO BUTTON;BACK b r f i;END b r f i",
    "ON b EXCLAMATION MARK b o h f i;SOON b k f i;TOP b UPWARDS f i;NO ONE UNDER EIGHTEEN w",
    "KEYCAP TEN;INPUT w FOR LATIN c LETTERS;dd LETTERS;cNUMBERS;cSYMBOLS;cLATIN LETTERS;FIRE",
    "ELECTRIC TORCH;WRENCH;HAMMER;NUT p BOLT;HOCHO;PISTOL;MICROSCOPE;TELESCOPE;CRYSTAL BALL",
    "SIX POINTED STAR b MIDDLE DOT;JAPANESE w FOR BEGINNER;TRIDENT EMBLEM;BLACK SQUARE BUTTON",
    "WHITE SQUARE BUTTON;LARGE RED CIRCLE;aBLUE CIRCLE;aORANGE DIAMOND;aBLUE DIAMOND",
    "SMALL ORANGE DIAMOND;aBLUE DIAMOND;UP-POINTING RED TRIANGLE;DOWN-POINTING RED TRIANGLE",
    "UP-POINTING d RED TRIANGLE;DOWN-POINTING d RED TRIANGLE;LOWER h SHADOWED z CIRCLE",
    "UPPER h SHADOWED z CIRCLE;CIRCLED CROSS POMMEE;CROSS POMMEE b HALF-CIRCLE m;aPOMMEE",
    "NOTCHED o SEMICIRCLE b t DOTS;ah SEMICIRCLE b t DOTS;SYMBOL FOR MARKS CHAPTER",
    "WHITE LATIN CROSS;HEAVY LATIN CROSS;CELTIC CROSS;OM w;DOVE OF PEACE;KAABA;MOSQUE;SYNAGOGUE",
    "MENORAH b NINE BRANCHES;BOWL OF HYGIEIA;CLOCK FACE ONE OCLOCK;bTWO OCLOCK;bt OCLOCK",
    "bFOUR OCLOCK;bFIVE OCLOCK;bSIX OCLOCK;bSEVEN OCLOCK;bEIGHT OCLOCK;bNINE OCLOCK;bTEN OCLOCK",
    "bELEVEN OCLOCK;bTWELVE OCLOCK;bONE-THIRTY;bTWO-THIRTY;bTHREE-THIRTY;bFOUR-THIRTY;bFIVE-THIRTY",
    "bSIX-THIRTY;bSEVEN-THIRTY;bEIGHT-THIRTY;bNINE-THIRTY;bTEN-THIRTY;bELEVEN-THIRTY",
    "bTWELVE-THIRTY;RIGHT SPEAKER;bb ONE SOUND WAVE;ct SOUND WAVES;BULLHORN;ab SOUND WAVES",
    "RINGING BELL;BOOK;CANDLE;MANTELPIECE CLOCK;BLACK SKULL p CROSSBONES;NO PIRACY;HOLE",
    "MAN IN BUSINESS SUIT LEVITATING;SLEUTH OR SPY;DARK SUNGLASSES;SPIDER;aWEB;JOYSTICK",
    "MAN DANCING;LEFT HAND TELEPHONE RECEIVER;TELEPHONE RECEIVER b PAGE",
    "RIGHT HAND TELEPHONE RECEIVER;WHITE TOUCHTONE TELEPHONE;BLACK TOUCHTONE TELEPHONE",
    "TELEPHONE ON TOP OF MODEM;CLAMSHELL MOBILE PHONE;BACK OF ENVELOPE;STAMPED ENVELOPE",
    "ENVELOPE b LIGHTNING;FLYING ENVELOPE;PEN OVER STAMPED ENVELOPE;LINKED PAPERCLIPS",
    "BLACK PUSHPIN;LOWER o PENCIL;bBALLPOINT PEN;bFOUNTAIN PEN;bPAINTBRUSH;bCRAYON",
    "LEFT WRITING HAND;TURNED OK HAND g;RAISED HAND b FINGERS SPLAYED",
    "REVERSED RAISED HAND b FINGERS SPLAYED;aTHUMBS UP g;bDOWN g;aVICTORY HAND",
    "aHAND b MIDDLE FINGER EXTENDED;RAISED HAND b PART BETWEEN MIDDLE p RING FINGERS",
    "WHITE DOWN POINTING o HAND INDEX;SIDEWAYS z o POINTING INDEX;bh POINTING INDEX",
    "ax o POINTING INDEX;bh POINTING INDEX;BLACK o POINTING BACKHAND INDEX",
    "ah POINTING BACKHAND INDEX;SIDEWAYS z UP POINTING INDEX;bDOWN POINTING INDEX",
    "ax UP POINTING INDEX;bDOWN POINTING INDEX;BLACK UP POINTING BACKHAND INDEX",
    "aDOWN POINTING BACKHAND INDEX;aHEART;DESKTOP COMPUTER;KEYBOARD p MOUSE",
    "THREE NETWORKED COMPUTERS;PRINTER;POCKET CALCULATOR;BLACK HARD SHELL FLOPPY DISK",
    "WHITE HARD SHELL FLOPPY DISK;SOFT SHELL FLOPPY DISK;TAPE CARTRIDGE;WIRED KEYBOARD",
    "ONE BUTTON MOUSE;TWO BUTTON MOUSE;THREE BUTTON MOUSE;TRACKBALL;OLD PERSONAL COMPUTER",
    "HARD DISK;SCREEN;PRINTER ICON;FAX ICON;OPTICAL DISC ICON;DOCUMENT b TEXT;cp PICTURE;bPICTURE",
    "FRAME b PICTURE;bTILES;bAN X;BLACK FOLDER;FOLDER;OPEN FOLDER;CARD INDEX DIVIDERS;aFILE BOX",
    "FILE CABINET;EMPTY NOTE;bPAGE;bPAD;NOTE;aPAGE;aPAD;EMPTY DOCUMENT;aPAGE;aPAGES;DOCUMENT;PAGE",
    "PAGES;WASTEBASKET;SPIRAL NOTE PAD;aCALENDAR PAD;DESKTOP WINDOW;MINIMIZE;MAXIMIZE;OVERLAP",
    "CLOCKWISE h p o SEMICIRCLE ARROWS;CANCELLATION X;INCREASE FONT SIZE w;DECREASE FONT SIZE w",
    "COMPRESSION;OLD KEY;ROLLED-UP NEWSPAPER;PAGE b CIRCLED TEXT;STOCK CHART;DAGGER KNIFE;LIPS",
    "SPEAKING HEAD IN SILHOUETTE;THREE RAYS i;bm;bo;bh;LEFT SPEECH BUBBLE;RIGHT SPEECH BUBBLE",
    "TWO SPEECH BUBBLES;THREE SPEECH BUBBLES;LEFT THOUGHT BUBBLE;RIGHT THOUGHT BUBBLE",
    "LEFT ANGER BUBBLE;RIGHT ANGER BUBBLE;MOOD BUBBLE;LIGHTNING MOOD BUBBLE;aMOOD",
    "BALLOT BOX b BALLOT;aSCRIPT X;aBOX b SCRIPT X;aBOLD SCRIPT X;aBOX b BOLD SCRIPT X",
    "LIGHT CHECK MARK;BALLOT BOX b BOLD CHECK;WORLD MAP;MOUNT FUJI;TOKYO TOWER;STATUE OF LIBERTY",
    "SILHOUETTE OF JAPAN;MOYAI;GRINNING FACE;bb SMILING EYES;FACE b TEARS OF JOY",
    "SMILING FACE b OPEN MOUTH;ep SMILING EYES;fCOLD SWEAT;fTIGHTLY-CLOSED EYES;cHALO;cHORNS",
    "WINKING FACE;SMILING FACE b SMILING EYES;FACE SAVOURING DELICIOUS FOOD;RELIEVED FACE",
    "SMILING FACE b HEART-SHAPED EYES;cSUNGLASSES;SMIRKING FACE;NEUTRAL FACE;EXPRESSIONLESS FACE",
    "UNAMUSED FACE;FACE b COLD SWEAT;PENSIVE FACE;CONFUSED FACE;CONFOUNDED FACE;KISSING FACE",
    "FACE THROWING A KISS;KISSING FACE b SMILING EYES;cCLOSED EYES;FACE b STUCK-OUT TONGUE",
    "dp WINKING EYE;eTIGHTLY-CLOSED EYES;DISAPPOINTED FACE;WORRIED FACE;ANGRY FACE;POUTING FACE",
    "CRYING FACE;PERSEVERING FACE;FACE b LOOK OF TRIUMPH;DISAPPOINTED BUT RELIEVED FACE",
    "FROWNING FACE b OPEN MOUTH;ANGUISHED FACE;FEARFUL FACE;WEARY FACE;SLEEPY FACE;TIRED FACE",
    "GRIMACING FACE;LOUDLY CRYING FACE;FACE b OPEN MOUTH;HUSHED FACE",
    "FACE b OPEN MOUTH p COLD SWEAT;aSCREAMING IN FEAR;ASTONISHED FACE;FLUSHED FACE;SLEEPING FACE",
    "DIZZY FACE;FACE WITHOUT MOUTH;ab MEDICAL MASK;GRINNING CAT FACE b SMILING EYES",
    "CAT FACE b TEARS OF JOY;SMILING CAT FACE b OPEN MOUTH;dHEART-SHAPED EYES;CAT FACE b WRY SMILE",
    "KISSING CAT FACE b CLOSED EYES;POUTING CAT FACE;CRYING CAT FACE;WEARY CAT FACE",
    "SLIGHTLY FROWNING FACE;aSMILING FACE;UPSIDE-DOWN FACE;FACE b ROLLING EYES;bNO GOOD GESTURE",
    "bOK GESTURE;PERSON BOWING DEEPLY;SEE-NO-EVIL MONKEY;HEAR-NO-EVIL MONKEY;SPEAK-NO-EVIL MONKEY",
    "HAPPY PERSON RAISING ONE HAND;PERSON RAISING BOTH HANDS IN CELEBRATION;aFROWNING",
    "ab POUTING FACE;bFOLDED HANDS;NORTH WEST POINTING LEAF;SOUTH WEST POINTING LEAF",
    "NORTH EAST POINTING LEAF;SOUTH EAST POINTING LEAF;TURNED NORTH WEST POINTING LEAF",
    "aSOUTH WEST POINTING LEAF;aNORTH EAST POINTING LEAF;aSOUTH EAST POINTING LEAF",
    "NORTH WEST POINTING VINE LEAF;SOUTH WEST POINTING VINE LEAF;NORTH EAST POINTING VINE LEAF",
    "SOUTH EAST POINTING VINE LEAF;HEAVY NORTH WEST POINTING VINE LEAF",
    "aSOUTH WEST POINTING VINE LEAF;aNORTH EAST POINTING VINE LEAF;aSOUTH EAST POINTING VINE LEAF",
    "NORTH WEST POINTING BUD;SOUTH WEST POINTING BUD;NORTH EAST POINTING BUD",
    "SOUTH EAST POINTING BUD;HEAVY NORTH WEST POINTING BUD;aSOUTH WEST POINTING BUD",
    "aNORTH EAST POINTING BUD;aSOUTH EAST POINTING BUD;HOLLOW QUILT SQUARE ORNAMENT;dIN x SQUARE",
    "SOLID QUILT SQUARE ORNAMENT;dIN x SQUARE;LEFTWARDS ROCKET;UPWARDS ROCKET;RIGHTWARDS ROCKET",
    "DOWNWARDS ROCKET;SCRIPT LIGATURE ET ORNAMENT;HEAVY SCRIPT LIGATURE ET ORNAMENT",
    "LIGATURE OPEN ET ORNAMENT;HEAVY LIGATURE OPEN ET ORNAMENT;aAMPERSAND ORNAMENT",
    "SWASH AMPERSAND ORNAMENT;SANS-SERIF HEAVY l TURNED COMMA QUOTATION MARK ORNAMENT",
    "cCOMMA QUOTATION MARK ORNAMENT;bLOW l COMMA QUOTATION MARK ORNAMENT",
    "HEAVY INTERROBANG ORNAMENT;SANS-SERIF INTERROBANG ORNAMENT",
    "HEAVY SANS-SERIF INTERROBANG ORNAMENT;VERY HEAVY SOLIDUS;bREVERSE SOLIDUS;CHECKER BOARD",
    "REVERSE CHECKER BOARD;ROCKET;HELICOPTER;STEAM LOCOMOTIVE;RAILWAY CAR;HIGH-SPEED TRAIN",
    "bb BULLET NOSE;TRAIN;METRO;LIGHT RAIL;STATION;TRAM;aCAR;BUS;ONCOMING BUS;TROLLEYBUS;BUS STOP",
    "MINIBUS;AMBULANCE;FIRE ENGINE;POLICE CAR;ONCOMING POLICE CAR;TAXI;ONCOMING TAXI;AUTOMOBILE",
    "ONCOMING AUTOMOBILE;RECREATIONAL VEHICLE;DELIVERY TRUCK;ARTICULATED LORRY;TRACTOR;MONORAIL",
    "MOUNTAIN RAILWAY;SUSPENSION RAILWAY;MOUNTAIN CABLEWAY;AERIAL TRAMWAY;SHIP;ROWBOAT;SPEEDBOAT",
    "HORIZONTAL TRAFFIC LIGHT;VERTICAL TRAFFIC LIGHT;CONSTRUCTION g;POLICE CARS REVOLVING LIGHT",
    "TRIANGULAR FLAG ON POST;DOOR;NO ENTRY g;SMOKING w;NO SMOKING w;PUT LITTER IN ITS PLACE w",
    "DO NOT LITTER w;POTABLE WATER w;NON-POTABLE WATER w;BICYCLE;NO BICYCLES;BICYCLIST",
    "MOUNTAIN BICYCLIST;PEDESTRIAN;NO PEDESTRIANS;CHILDREN CROSSING;MENS w;WOMENS w;RESTROOM",
    "BABY w;TOILET;WATER CLOSET;SHOWER;BATH;BATHTUB;PASSPORT CONTROL;CUSTOMS;BAGGAGE CLAIM",
    "LEFT LUGGAGE;TRIANGLE b ROUNDED CORNERS;PROHIBITED g;CIRCLED INFORMATION SOURCE;BOYS w",
    "GIRLS w;COUCH p LAMP;SLEEPING ACCOMMODATION;SHOPPING BAGS;BELLHOP BELL;BED;PLACE OF WORSHIP",
    "OCTAGONAL g;SHOPPING TROLLEY;STUPA;PAGODA;HINDU TEMPLE;HUT;ELEVATOR;-5;PLAYGROUND SLIDE;WHEEL",
    "RING BUOY;HAMMER p WRENCH;SHIELD;OIL DRUM;MOTORWAY;RAILWAY TRACK;MOTOR BOAT",
    "UP-POINTING MILITARY AIRPLANE;aAIRPLANE;ad AIRPLANE;SMALL AIRPLANE",
    "NORTHEAST-POINTING AIRPLANE;AIRPLANE DEPARTURE;aARRIVING;-3;SATELLITE;ONCOMING FIRE ENGINE",
    "DIESEL LOCOMOTIVE;PASSENGER SHIP;SCOOTER;MOTOR SCOOTER;CANOE;SLED;FLYING SAUCER;SKATEBOARD",
    "AUTO RICKSHAW;PICKUP TRUCK;ROLLER SKATE;-3;ALCHEMICAL w FOR QUINTESSENCE;cAIR;cFIRE;cEARTH",
    "cWATER;cAQUAFORTIS;cAQUA REGIA;dREGIA-2;dVITAE;dVITAE-2;cVINEGAR;cVINEGAR-2;cVINEGAR-3",
    "cSULFUR;cPHILOSOPHERS SULFUR;cx SULFUR;cMERCURY SUBLIMATE;dSUBLIMATE-2;dSUBLIMATE-3;cCINNABAR",
    "cSALT;cNITRE;cVITRIOL;cVITRIOL-2;cROCK SALT;dSALT-2;cGOLD;cSILVER;cIRON ORE;dORE-2",
    "cCROCUS OF IRON;cREGULUS OF IRON;cCOPPER ORE;cIRON-COPPER ORE;cSUBLIMATE OF COPPER",
    "cCROCUS OF COPPER;eCOPPER-2;cCOPPER ANTIMONIATE;cSALT OF COPPER ANTIMONIATE",
    "cSUBLIMATE OF SALT OF COPPER;cVERDIGRIS;cTIN ORE;cLEAD ORE;cANTIMONY ORE",
    "cSUBLIMATE OF ANTIMONY;cSALT OF ANTIMONY;cSUBLIMATE OF SALT OF ANTIMONY;cVINEGAR OF ANTIMONY",
    "cREGULUS OF ANTIMONY;eANTIMONY-2;cREGULUS;cREGULUS-2;+2;cALKALI;cALKALI-2;cMARCASITE",
    "cSAL-AMMONIAC;cARSENIC;cREALGAR;cREALGAR-2;cAURIPIGMENT;cBISMUTH ORE;cTARTAR;cTARTAR-2",
    "cQUICK LIME;cBORAX;cBORAX-2;cBORAX-3;cALUM;cOIL;cSPIRIT;cTINCTURE;cGUM;cWAX;cPOWDER;cCALX",
    "cTUTTY;cCAPUT MORTUUM;cSCEPTER OF JOVE;cCADUCEUS;cTRIDENT;cSTARRED TRIDENT;cLODESTONE;cSOAP",
    "cURINE;cHORSE DUNG;cASHES;cPOT ASHES;cBRICK;cPOWDERED BRICK;cAMALGAM;cSTRATUM SUPER STRATUM",
    "eSTRATUM-2;cSUBLIMATION;cPRECIPITATE;cDISTILL;cDISSOLVE;cDISSOLVE-2;cPURIFY;cPUTREFACTION",
    "cCRUCIBLE;cCRUCIBLE-2;+3;cALEMBIC;cBATH OF MARY;eVAPOURS;cRETORT;cHOUR;cNIGHT;cDAY-NIGHT",
    "cMONTH;cHALF DRAM;dOUNCE;-12;BLACK LEFT-POINTING ISOSCELES h TRIANGLE",
    "aUP-POINTING ISOSCELES h TRIANGLE;aRIGHT-POINTING ISOSCELES h TRIANGLE",
    "aDOWN-POINTING ISOSCELES h TRIANGLE;aSLIGHTLY d CIRCLE;MEDIUM BOLD z CIRCLE;BOLD z CIRCLE",
    "HEAVY z CIRCLE;VERY HEAVY z CIRCLE;EXTREMELY HEAVY z CIRCLE",
    "WHITE CIRCLE CONTAINING x d CIRCLE;ROUND TARGET;BLACK TINY SQUARE;aSLIGHTLY d SQUARE",
    "LIGHT z SQUARE;MEDIUM z SQUARE;BOLD z SQUARE;HEAVY z SQUARE;VERY HEAVY z SQUARE",
    "EXTREMELY HEAVY z SQUARE;WHITE SQUARE CONTAINING x VERY d SQUARE;dMEDIUM SQUARE;SQUARE TARGET",
    "BLACK TINY DIAMOND;aVERY d DIAMOND;aMEDIUM d DIAMOND",
    "WHITE DIAMOND CONTAINING x VERY d DIAMOND;dMEDIUM DIAMOND;DIAMOND TARGET;BLACK TINY LOZENGE",
    "aVERY d LOZENGE;aMEDIUM d LOZENGE;WHITE LOZENGE CONTAINING x d LOZENGE;THIN GREEK CROSS",
    "LIGHT GREEK CROSS;MEDIUM GREEK CROSS;BOLD GREEK CROSS;VERY BOLD GREEK CROSS",
    "aHEAVY GREEK CROSS;EXTREMELY HEAVY GREEK CROSS;THIN SALTIRE;LIGHT SALTIRE;MEDIUM SALTIRE",
    "BOLD SALTIRE;HEAVY SALTIRE;VERY HEAVY SALTIRE;EXTREMELY HEAVY SALTIRE",
    "LIGHT FIVE SPOKED ASTERISK;MEDIUM FIVE SPOKED ASTERISK;BOLD FIVE SPOKED ASTERISK",
    "HEAVY FIVE SPOKED ASTERISK;VERY HEAVY FIVE SPOKED ASTERISK",
    "EXTREMELY HEAVY FIVE SPOKED ASTERISK;LIGHT SIX SPOKED ASTERISK;MEDIUM SIX SPOKED ASTERISK",
    "BOLD SIX SPOKED ASTERISK;HEAVY SIX SPOKED ASTERISK;VERY HEAVY SIX SPOKED ASTERISK",
    "EXTREMELY HEAVY SIX SPOKED ASTERISK;LIGHT EIGHT SPOKED ASTERISK;MEDIUM EIGHT SPOKED ASTERISK",
    "BOLD EIGHT SPOKED ASTERISK;HEAVY EIGHT SPOKED ASTERISK;VERY HEAVY EIGHT SPOKED ASTERISK",
    "LIGHT t POINTED x STAR;MEDIUM t POINTED x STAR;THREE POINTED x STAR",
    "MEDIUM t POINTED PINWHEEL STAR;LIGHT FOUR POINTED x STAR;MEDIUM FOUR POINTED x STAR",
    "FOUR POINTED x STAR;MEDIUM FOUR POINTED PINWHEEL STAR",
    "REVERSE LIGHT FOUR POINTED PINWHEEL STAR;LIGHT FIVE POINTED x STAR;HEAVY FIVE POINTED x STAR",
    "MEDIUM SIX POINTED x STAR;HEAVY SIX POINTED x STAR;SIX POINTED PINWHEEL STAR",
    "MEDIUM EIGHT POINTED x STAR;HEAVY EIGHT POINTED x STAR;VERY HEAVY EIGHT POINTED x STAR",
    "HEAVY EIGHT POINTED PINWHEEL STAR;LIGHT TWELVE POINTED x STAR;HEAVY TWELVE POINTED x STAR",
    "cPINWHEEL STAR;CIRCLED TRIANGLE;NEGATIVE CIRCLED TRIANGLE;CIRCLED SQUARE",
    "NEGATIVE CIRCLED SQUARE;-7;LARGE ORANGE CIRCLE;aYELLOW CIRCLE;aGREEN CIRCLE;aPURPLE CIRCLE",
    "aBROWN CIRCLE;aRED SQUARE;aBLUE SQUARE;aORANGE SQUARE;aYELLOW SQUARE;aGREEN SQUARE",
    "aPURPLE SQUARE;aBROWN SQUARE;-4;HEAVY EQUALS g;-15;LEFTWARDS f b d TRIANGLE ARROWHEAD",
    "UPWARDS f b d TRIANGLE ARROWHEAD;RIGHTWARDS f b d TRIANGLE ARROWHEAD",
    "DOWNWARDS f b d TRIANGLE ARROWHEAD;LEFTWARDS f b MEDIUM TRIANGLE ARROWHEAD",
    "UPWARDS f b MEDIUM TRIANGLE ARROWHEAD;RIGHTWARDS f b MEDIUM TRIANGLE ARROWHEAD",
    "DOWNWARDS f b MEDIUM TRIANGLE ARROWHEAD;LEFTWARDS f b LARGE TRIANGLE ARROWHEAD",
    "UPWARDS f b LARGE TRIANGLE ARROWHEAD;RIGHTWARDS f b LARGE TRIANGLE ARROWHEAD",
    "DOWNWARDS f b LARGE TRIANGLE ARROWHEAD;-4;LEFTWARDS f b d EQUILATERAL ARROWHEAD",
    "UPWARDS f b d EQUILATERAL ARROWHEAD;RIGHTWARDS f b d EQUILATERAL ARROWHEAD",
    "DOWNWARDS f b d EQUILATERAL ARROWHEAD;LEFTWARDS f b EQUILATERAL ARROWHEAD",
    "UPWARDS f b EQUILATERAL ARROWHEAD;RIGHTWARDS f b EQUILATERAL ARROWHEAD",
    "DOWNWARDS f b EQUILATERAL ARROWHEAD;HEAVY r f b EQUILATERAL ARROWHEAD",
    "aUPWARDS f b EQUILATERAL ARROWHEAD;ak f b EQUILATERAL ARROWHEAD",
    "aDOWNWARDS f b EQUILATERAL ARROWHEAD;ar f b LARGE EQUILATERAL ARROWHEAD",
    "aUPWARDS f b LARGE EQUILATERAL ARROWHEAD;ak f b LARGE EQUILATERAL ARROWHEAD",
    "aDOWNWARDS f b LARGE EQUILATERAL ARROWHEAD;LEFTWARDS u f b NARROW SHAFT",
    "UPWARDS u f b NARROW SHAFT;RIGHTWARDS u f b NARROW SHAFT;DOWNWARDS u f b NARROW SHAFT",
    "LEFTWARDS u f b MEDIUM SHAFT;UPWARDS u f b MEDIUM SHAFT;RIGHTWARDS u f b MEDIUM SHAFT",
    "DOWNWARDS u f b MEDIUM SHAFT;LEFTWARDS u f b BOLD SHAFT;UPWARDS u f b BOLD SHAFT",
    "RIGHTWARDS u f b BOLD SHAFT;DOWNWARDS u f b BOLD SHAFT;LEFTWARDS u f b HEAVY SHAFT",
    "UPWARDS u f b HEAVY SHAFT;RIGHTWARDS u f b HEAVY SHAFT;DOWNWARDS u f b HEAVY SHAFT",
    "LEFTWARDS u f b VERY HEAVY SHAFT;UPWARDS u f b VERY HEAVY SHAFT",
    "RIGHTWARDS u f b VERY HEAVY SHAFT;DOWNWARDS u f b VERY HEAVY SHAFT;LEFTWARDS FINGER-POST f",
    "UPWARDS FINGER-POST f;RIGHTWARDS FINGER-POST f;DOWNWARDS FINGER-POST f;LEFTWARDS SQUARED f",
    "UPWARDS SQUARED f;RIGHTWARDS SQUARED f;DOWNWARDS SQUARED f;LEFTWARDS COMPRESSED f",
    "UPWARDS COMPRESSED f;RIGHTWARDS COMPRESSED f;DOWNWARDS COMPRESSED f",
    "LEFTWARDS HEAVY COMPRESSED f;UPWARDS HEAVY COMPRESSED f;RIGHTWARDS HEAVY COMPRESSED f",
    "DOWNWARDS HEAVY COMPRESSED f;LEFTWARDS HEAVY f;UPWARDS HEAVY f;RIGHTWARDS HEAVY f",
    "DOWNWARDS HEAVY f;-8;LEFTWARDS SANS-SERIF f;UPWARDS SANS-SERIF f;RIGHTWARDS SANS-SERIF f",
    "DOWNWARDS SANS-SERIF f;NORTH WEST SANS-SERIF f;aEAST SANS-SERIF f;SOUTH EAST SANS-SERIF f",
    "aWEST SANS-SERIF f;LEFT h SANS-SERIF f;UP DOWN SANS-SERIF f;-6;WIDE-HEADED r LIGHT BARB f",
    "aUPWARDS LIGHT BARB f;ak LIGHT BARB f;aDOWNWARDS LIGHT BARB f;aNORTH WEST LIGHT BARB f",
    "bEAST LIGHT BARB f;aSOUTH EAST LIGHT BARB f;bWEST LIGHT BARB f;ar BARB f;aUPWARDS BARB f",
    "ak BARB f;aDOWNWARDS BARB f;aNORTH WEST BARB f;bEAST BARB f;aSOUTH EAST BARB f;bWEST BARB f",
    "ar MEDIUM BARB f;aUPWARDS MEDIUM BARB f;ak MEDIUM BARB f;aDOWNWARDS MEDIUM BARB f",
    "aNORTH WEST MEDIUM BARB f;bEAST MEDIUM BARB f;aSOUTH EAST MEDIUM BARB f;bWEST MEDIUM BARB f",
    "ar HEAVY BARB f;aUPWARDS HEAVY BARB f;ak HEAVY BARB f;aDOWNWARDS HEAVY BARB f",
    "aNORTH WEST HEAVY BARB f;bEAST HEAVY BARB f;aSOUTH EAST HEAVY BARB f;bWEST HEAVY BARB f",
    "ar VERY HEAVY BARB f;aUPWARDS VERY HEAVY BARB f;ak VERY HEAVY BARB f",
    "aDOWNWARDS VERY HEAVY BARB f;aNORTH WEST VERY HEAVY BARB f;bEAST VERY HEAVY BARB f",
    "aSOUTH EAST VERY HEAVY BARB f;bWEST VERY HEAVY BARB f;-8;LEFTWARDS TRIANGLE ARROWHEAD",
    "UPWARDS TRIANGLE ARROWHEAD;RIGHTWARDS TRIANGLE ARROWHEAD;DOWNWARDS TRIANGLE ARROWHEAD",
    "LEFTWARDS z f WITHIN TRIANGLE ARROWHEAD;UPWARDS z f WITHIN TRIANGLE ARROWHEAD",
    "RIGHTWARDS z f WITHIN TRIANGLE ARROWHEAD;DOWNWARDS z f WITHIN TRIANGLE ARROWHEAD",
    "LEFTWARDS f b NOTCHED TAIL;UPWARDS f b NOTCHED TAIL;RIGHTWARDS f b NOTCHED TAIL",
    "DOWNWARDS f b NOTCHED TAIL;HEAVY f SHAFT WIDTH ONE;dTWO THIRDS;dONE HALF;eTHIRD",
    "LEFTWARDS BOTTOM-SHADED z f;RIGHTWARDS BOTTOM SHADED z f;LEFTWARDS TOP SHADED z f",
    "RIGHTWARDS TOP SHADED z f;LEFTWARDS LEFT-SHADED z f;RIGHTWARDS RIGHT-SHADED z f",
    "LEFTWARDS RIGHT-SHADED z f;RIGHTWARDS LEFT-SHADED z f;LEFTWARDS BACK-TILTED SHADOWED z f",
    "RIGHTWARDS BACK-TILTED SHADOWED z f;LEFTWARDS FRONT-TILTED SHADOWED z f",
    "RIGHTWARDS FRONT-TILTED SHADOWED z f;WHITE f SHAFT WIDTH ONE;dTWO THIRDS;-2",
    "ARROW POINTING UPWARDS THEN NORTH WEST;bk THEN CURVING SOUTH WEST"]),
   (0x1f900, [
    "CIRCLED CROSS FORMEE b FOUR DOTS;dTWO DOTS;bFORMEE;LEFT HALF CIRCLE b FOUR DOTS;dt DOTS",
    "dTWO DOTS;dDOT;bCIRCLE;DOWNWARD FACING HOOK;bNOTCHED HOOK;bHOOK b DOT;bNOTCHED HOOK b DOT",
    "PINCHED FINGERS;WHITE HEART;BROWN HEART;PINCHING HAND;ZIPPER-MOUTH FACE;MONEY-MOUTH FACE",
    "FACE b THERMOMETER;NERD FACE;THINKING FACE;FACE b HEAD-BANDAGE;ROBOT FACE;HUGGING FACE",
    "SIGN OF THE HORNS;CALL ME HAND;RAISED BACK OF HAND;LEFT-FACING FIST;RIGHT-FACING FIST",
    "HANDSHAKE;HAND b INDEX p MIDDLE FINGERS CROSSED;I LOVE YOU HAND g;FACE b COWBOY HAT",
    "CLOWN FACE;NAUSEATED FACE;ROLLING ON THE FLOOR LAUGHING;DROOLING FACE;LYING FACE;FACE PALM",
    "SNEEZING FACE;FACE b ONE EYEBROW RAISED;GRINNING FACE b STAR EYES;cONE LARGE p ONE d EYE",
    "FACE b FINGER COVERING CLOSED LIPS;SERIOUS FACE b SYMBOLS COVERING MOUTH",
    "SMILING FACE b SMILING EYES p HAND COVERING MOUTH;FACE b OPEN MOUTH VOMITING",
    "SHOCKED FACE b EXPLODING HEAD;PREGNANT WOMAN;BREAST-FEEDING;PALMS UP TOGETHER;SELFIE;PRINCE",
    "MAN IN TUXEDO;MOTHER CHRISTMAS;SHRUG;PERSON DOING CARTWHEEL;JUGGLING;FENCER;MODERN PENTATHLON",
    "WRESTLERS;WATER POLO;HANDBALL;DIVING MASK;WILTED FLOWER;DRUM b DRUMSTICKS;CLINKING GLASSES",
    "TUMBLER GLASS;SPOON;GOAL NET;RIFLE;FIRST PLACE MEDAL;SECOND PLACE MEDAL;THIRD PLACE MEDAL",
    "BOXING GLOVE;MARTIAL ARTS UNIFORM;CURLING STONE;LACROSSE STICK p BALL;SOFTBALL;FLYING DISC",
    "CROISSANT;AVOCADO;CUCUMBER;BACON;POTATO;CARROT;BAGUETTE BREAD;GREEN SALAD;SHALLOW PAN OF FOOD",
    "STUFFED FLATBREAD;EGG;GLASS OF MILK;PEANUTS;KIWIFRUIT;PANCAKES;DUMPLING;FORTUNE COOKIE",
    "TAKEOUT BOX;CHOPSTICKS;BOWL b SPOON;CUP b STRAW;COCONUT;BROCCOLI;PIE;PRETZEL;CUT OF MEAT",
    "SANDWICH;CANNED FOOD;LEAFY GREEN;MANGO;MOON CAKE;BAGEL;SMILING FACE b SMILING EYES p t HEARTS",
    "YAWNING FACE;SMILING FACE b TEAR;FACE b PARTY HORN p PARTY HAT;bUNEVEN EYES p WAVY MOUTH",
    "OVERHEATED FACE;FREEZING FACE;NINJA;DISGUISED FACE;FACE HOLDING BACK TEARS;ab PLEADING EYES",
    "SARI;LAB COAT;GOGGLES;HIKING BOOT;FLAT SHOE;CRAB;LION FACE;SCORPION;TURKEY;UNICORN FACE;EAGLE",
    "DUCK;BAT;SHARK;OWL;FOX FACE;BUTTERFLY;DEER;GORILLA;LIZARD;RHINOCEROS;SHRIMP;SQUID",
    "GIRAFFE FACE;ZEBRA FACE;HEDGEHOG;SAUROPOD;T-REX;CRICKET;KANGAROO;LLAMA;PEACOCK;HIPPOPOTAMUS",
    "PARROT;RACCOON;LOBSTER;MOSQUITO;MICROBE;BADGER;SWAN;MAMMOTH;DODO;SLOTH;OTTER;ORANGUTAN;SKUNK",
    "FLAMINGO;OYSTER;BEAVER;BISON;SEAL;GUIDE DOG;PROBING CANE;EMOJI COMPONENT RED HAIR;bCURLY HAIR",
    "bBALD;bz HAIR;BONE;LEG;FOOT;TOOTH;SUPERHERO;SUPERVILLAIN;SAFETY VEST;EAR b HEARING AID",
    "MOTORIZED WHEELCHAIR;MANUAL WHEELCHAIR;MECHANICAL ARM;aLEG;CHEESE WEDGE;CUPCAKE;SALT SHAKER",
    "BEVERAGE BOX;GARLIC;ONION;FALAFEL;WAFFLE;BUTTER;MATE DRINK;ICE CUBE;BUBBLE TEA;TROLL",
    "STANDING PERSON;KNEELING PERSON;DEAF PERSON;FACE b MONOCLE;ADULT;CHILD;OLDER ADULT",
    "BEARDED PERSON;PERSON b HEADSCARF;aIN STEAMY ROOM;aCLIMBING;aIN LOTUS POSITION;MAGE;FAIRY",
    "VAMPIRE;MERPERSON;ELF;GENIE;ZOMBIE;BRAIN;ORANGE HEART;BILLED CAP;SCARF;GLOVES;COAT;SOCKS",
    "RED GIFT ENVELOPE;FIRECRACKER;JIGSAW PUZZLE PIECE;TEST TUBE;PETRI DISH;DNA l HELIX;COMPASS",
    "ABACUS;FIRE EXTINGUISHER;TOOLBOX;BRICK;MAGNET;LUGGAGE;LOTION BOTTLE;SPOOL OF THREAD",
    "BALL OF YARN;SAFETY PIN;TEDDY BEAR;BROOM;BASKET;ROLL OF PAPER;BAR OF SOAP;SPONGE;RECEIPT",
    "NAZAR AMULET;NEUTRAL CHESS KING;bQUEEN;bROOK;bBISHOP;bKNIGHT;bPAWN",
    "WHITE CHESS KNIGHT ROTATED FORTY-FIVE DEGREES;BLACK CHESS KNIGHT ROTATED FORTY-FIVE DEGREES",
    "NEUTRAL CHESS KNIGHT ROTATED FORTY-FIVE DEGREES;WHITE CHESS KING ROTATED NINETY DEGREES",
    "bQUEEN ROTATED NINETY DEGREES;bROOK ROTATED NINETY DEGREES;bBISHOP ROTATED NINETY DEGREES",
    "bKNIGHT ROTATED NINETY DEGREES;bPAWN ROTATED NINETY DEGREES",
    "BLACK CHESS KING ROTATED NINETY DEGREES;bQUEEN ROTATED NINETY DEGREES",
    "bROOK ROTATED NINETY DEGREES;bBISHOP ROTATED NINETY DEGREES;bKNIGHT ROTATED NINETY DEGREES",
    "bPAWN ROTATED NINETY DEGREES;NEUTRAL CHESS KING ROTATED NINETY DEGREES",
    "bQUEEN ROTATED NINETY DEGREES;bROOK ROTATED NINETY DEGREES;bBISHOP ROTATED NINETY DEGREES",
    "bKNIGHT ROTATED NINETY DEGREES;bPAWN ROTATED NINETY DEGREES",
    "WHITE CHESS KNIGHT ROTATED ONE HUNDRED THIRTY-FIVE DEGREES",
    "BLACK CHESS KNIGHT ROTATED ONE HUNDRED THIRTY-FIVE DEGREES",
    "NEUTRAL CHESS KNIGHT ROTATED ONE HUNDRED THIRTY-FIVE DEGREES;WHITE CHESS TURNED KING;cQUEEN",
    "cROOK;cBISHOP;cKNIGHT;cPAWN;BLACK CHESS TURNED KING;cQUEEN;cROOK;cBISHOP;cKNIGHT;cPAWN",
    "NEUTRAL CHESS TURNED KING;cQUEEN;cROOK;cBISHOP;cKNIGHT;cPAWN",
    "WHITE CHESS KNIGHT ROTATED TWO HUNDRED TWENTY-FIVE DEGREES",
    "BLACK CHESS KNIGHT ROTATED TWO HUNDRED TWENTY-FIVE DEGREES",
    "NEUTRAL CHESS KNIGHT ROTATED TWO HUNDRED TWENTY-FIVE DEGREES",
    "WHITE CHESS KING ROTATED TWO HUNDRED SEVENTY DEGREES",
    "bQUEEN ROTATED TWO HUNDRED SEVENTY DEGREES;bROOK ROTATED TWO HUNDRED SEVENTY DEGREES",
    "bBISHOP ROTATED TWO HUNDRED SEVENTY DEGREES;bKNIGHT ROTATED TWO HUNDRED SEVENTY DEGREES",
    "bPAWN ROTATED TWO HUNDRED SEVENTY DEGREES",
    "BLACK CHESS KING ROTATED TWO HUNDRED SEVENTY DEGREES",
    "bQUEEN ROTATED TWO HUNDRED SEVENTY DEGREES;bROOK ROTATED TWO HUNDRED SEVENTY DEGREES",
    "bBISHOP ROTATED TWO HUNDRED SEVENTY DEGREES;bKNIGHT ROTATED TWO HUNDRED SEVENTY DEGREES",
    "bPAWN ROTATED TWO HUNDRED SEVENTY DEGREES",
    "NEUTRAL CHESS KING ROTATED TWO HUNDRED SEVENTY DEGREES",
    "bQUEEN ROTATED TWO HUNDRED SEVENTY DEGREES;bROOK ROTATED TWO HUNDRED SEVENTY DEGREES",
    "bBISHOP ROTATED TWO HUNDRED SEVENTY DEGREES;bKNIGHT ROTATED TWO HUNDRED SEVENTY DEGREES",
    "bPAWN ROTATED TWO HUNDRED SEVENTY DEGREES",
    "WHITE CHESS KNIGHT ROTATED t HUNDRED FIFTEEN DEGREES",
    "BLACK CHESS KNIGHT ROTATED t HUNDRED FIFTEEN DEGREES",
    "NEUTRAL CHESS KNIGHT ROTATED t HUNDRED FIFTEEN DEGREES;WHITE CHESS EQUIHOPPER",
    "BLACK CHESS EQUIHOPPER;NEUTRAL CHESS EQUIHOPPER;WHITE CHESS EQUIHOPPER ROTATED NINETY DEGREES",
    "BLACK CHESS EQUIHOPPER ROTATED NINETY DEGREES;NEUTRAL CHESS EQUIHOPPER ROTATED NINETY DEGREES",
    "WHITE CHESS KNIGHT-QUEEN;bKNIGHT-ROOK;bKNIGHT-BISHOP;BLACK CHESS KNIGHT-QUEEN;bKNIGHT-ROOK",
    "bKNIGHT-BISHOP;-12;XIANGQI RED GENERAL;bMANDARIN;bELEPHANT;bHORSE;bCHARIOT;bCANNON;bSOLDIER",
    "ax GENERAL;bMANDARIN;bELEPHANT;bHORSE;bCHARIOT;bCANNON;bSOLDIER;-2;BALLET SHOES",
    "ONE-PIECE SWIMSUIT;BRIEFS;SHORTS;THONG SANDAL;-3;DROP OF BLOOD;ADHESIVE BANDAGE;STETHOSCOPE",
    "X-RAY;CRUTCH;-3;YO-YO;KITE;PARACHUTE;BOOMERANG;MAGIC WAND;PINATA;NESTING DOLLS;-9",
    "RINGED PLANET;CHAIR;RAZOR;AXE;DIYA LAMP;BANJO;MILITARY HELMET;ACCORDION;LONG DRUM;COIN",
    "CARPENTRY SAW;SCREWDRIVER;LADDER;HOOK;MIRROR;WINDOW;PLUNGER;SEWING NEEDLE;KNOT;BUCKET",
    "MOUSE TRAP;TOOTHBRUSH;HEADSTONE;PLACARD;ROCK;MIRROR BALL;IDENTIFICATION CARD;LOW BATTERY",
    "HAMSA;-3;FLY;WORM;BEETLE;COCKROACH;POTTED PLANT;WOOD;FEATHER;LOTUS;CORAL;EMPTY NEST",
    "NEST b EGGS;-5;ANATOMICAL HEART;LUNGS;PEOPLE HUGGING;PREGNANT MAN;aPERSON;PERSON b CROWN;-10",
    "BLUEBERRIES;BELL PEPPER;OLIVE;FLATBREAD;TAMALE;FONDUE;TEAPOT;POURING LIQUID;BEANS;JAR;-6",
    "MELTING FACE;SALUTING FACE;FACE b OPEN EYES p HAND OVER MOUTH;bPEEKING EYE;bDIAGONAL MOUTH",
    "DOTTED LINE FACE;BITING LIP;BUBBLES;-8;HAND b INDEX FINGER p THUMB CROSSED;RIGHTWARDS HAND",
    "LEFTWARDS HAND;PALM DOWN HAND;aUP HAND;INDEX POINTING AT THE VIEWER;HEART HANDS;-9",
    "BLOCK SEXTANT-1;aSEXTANT-2;aSEXTANT-12;aSEXTANT-3;aSEXTANT-13;aSEXTANT-23;aSEXTANT-123",
    "aSEXTANT-4;aSEXTANT-14;aSEXTANT-24;aSEXTANT-124;aSEXTANT-34;aSEXTANT-134;aSEXTANT-234",
    "aSEXTANT-1234;aSEXTANT-5;aSEXTANT-15;aSEXTANT-25;aSEXTANT-125;aSEXTANT-35;aSEXTANT-235",
    "aSEXTANT-1235;aSEXTANT-45;aSEXTANT-145;aSEXTANT-245;aSEXTANT-1245;aSEXTANT-345;aSEXTANT-1345",
    "aSEXTANT-2345;aSEXTANT-12345;aSEXTANT-6;aSEXTANT-16;aSEXTANT-26;aSEXTANT-126;aSEXTANT-36",
    "aSEXTANT-136;aSEXTANT-236;aSEXTANT-1236;aSEXTANT-46;aSEXTANT-146;aSEXTANT-1246;aSEXTANT-346",
    "aSEXTANT-1346;aSEXTANT-2346;aSEXTANT-12346;aSEXTANT-56;aSEXTANT-156;aSEXTANT-256",
    "aSEXTANT-1256;aSEXTANT-356;aSEXTANT-1356;aSEXTANT-2356;aSEXTANT-12356;aSEXTANT-456",
    "aSEXTANT-1456;aSEXTANT-2456;aSEXTANT-12456;aSEXTANT-3456;aSEXTANT-13456;aSEXTANT-23456",
    "LOWER o BLOCK DIAGONAL LOWER MIDDLE o TO LOWER CENTRE;ih;dUPPER MIDDLE o TO LOWER CENTRE;ih",
    "eo TO LOWER CENTRE;ah BLOCK DIAGONAL UPPER MIDDLE o TO UPPER CENTRE;ih",
    "dLOWER MIDDLE o TO UPPER CENTRE;ih;eo TO UPPER CENTRE;eMIDDLE o TO UPPER MIDDLE h",
    "eCENTRE TO LOWER MIDDLE h;eo TO LOWER MIDDLE h;eCENTRE TO UPPER MIDDLE h;eo TO UPPER MIDDLE h",
    "eCENTRE TO UPPER h;ao BLOCK DIAGONAL UPPER CENTRE TO UPPER MIDDLE h;eo TO UPPER MIDDLE h",
    "eCENTRE TO LOWER MIDDLE h;eo TO LOWER MIDDLE h;eCENTRE TO LOWER h;eMIDDLE o TO LOWER MIDDLE h",
    "UPPER h BLOCK DIAGONAL LOWER MIDDLE o TO LOWER CENTRE;ih;dUPPER MIDDLE o TO LOWER CENTRE;ih",
    "eo TO LOWER CENTRE;ao BLOCK DIAGONAL UPPER MIDDLE o TO UPPER CENTRE;ih",
    "dLOWER MIDDLE o TO UPPER CENTRE;ih;eo TO UPPER CENTRE;eMIDDLE o TO UPPER MIDDLE h",
    "eCENTRE TO LOWER MIDDLE h;eo TO LOWER MIDDLE h;eCENTRE TO UPPER MIDDLE h;eo TO UPPER MIDDLE h",
    "eCENTRE TO UPPER h;ah BLOCK DIAGONAL UPPER CENTRE TO UPPER MIDDLE h;eo TO UPPER MIDDLE h",
    "eCENTRE TO LOWER MIDDLE h;eo TO LOWER MIDDLE h;eCENTRE TO LOWER h;eMIDDLE o TO LOWER MIDDLE h",
    "ap h p LOWER TRIANGULAR t QUARTERS BLOCK;LEFT p LOWER p h TRIANGULAR t QUARTERS BLOCK",
    "UPPER p o p LOWER TRIANGULAR t QUARTERS BLOCK;LEFT p UPPER p h TRIANGULAR t QUARTERS BLOCK",
    "aTRIANGULAR ONE QUARTER BLOCK;UPPER TRIANGULAR ONE QUARTER BLOCK",
    "RIGHT TRIANGULAR ONE QUARTER BLOCK;LOWER TRIANGULAR ONE QUARTER BLOCK",
    "VERTICAL ONE EIGHTH BLOCK-2;+5;HORIZONTAL ONE EIGHTH BLOCK-2;+5;LEFT p LOWER ONE EIGHTH BLOCK",
    "bUPPER ONE EIGHTH BLOCK;RIGHT p UPPER ONE EIGHTH BLOCK;bLOWER ONE EIGHTH BLOCK",
    "UPPER p LOWER ONE EIGHTH BLOCK;HORIZONTAL ONE EIGHTH BLOCK-1358;UPPER ONE QUARTER BLOCK",
    "at EIGHTHS BLOCK;aFIVE EIGHTHS BLOCK;at QUARTERS BLOCK;aSEVEN EIGHTHS BLOCK",
    "RIGHT ONE QUARTER BLOCK;at EIGHTHS BLOCK;aFIVE EIGHTHS BLOCK;at QUARTERS BLOCK",
    "aSEVEN EIGHTHS BLOCK;LEFT HALF MEDIUM SHADE;RIGHT HALF MEDIUM SHADE;UPPER HALF MEDIUM SHADE",
    "LOWER HALF MEDIUM SHADE;INVERSE MEDIUM SHADE",
    "UPPER HALF BLOCK p LOWER HALF INVERSE MEDIUM SHADE;bINVERSE MEDIUM SHADE p LOWER HALF BLOCK",
    "-1;LEFT HALF INVERSE MEDIUM SHADE p h HALF BLOCK;CHECKER BOARD FILL",
    "INVERSE CHECKER BOARD FILL;HEAVY y FILL;UPPER o TO LOWER h FILL;ah TO LOWER o FILL",
    "ap LOWER TRIANGULAR HALF BLOCK;LEFT p h TRIANGULAR HALF BLOCK;UPPER o TRIANGULAR MEDIUM SHADE",
    "ah TRIANGULAR MEDIUM SHADE;LOWER h TRIANGULAR MEDIUM SHADE;ao TRIANGULAR MEDIUM SHADE",
    "BOX DRAWINGS LIGHT DIAGONAL UPPER CENTRE TO MIDDLE o;hh;dMIDDLE o TO LOWER CENTRE",
    "eh TO LOWER CENTRE;dUPPER CENTRE TO MIDDLE o TO LOWER CENTRE;hh TO LOWER CENTRE",
    "dMIDDLE o TO LOWER CENTRE TO MIDDLE h;gUPPER CENTRE TO MIDDLE h",
    "dUPPER CENTRE TO MIDDLE o p MIDDLE h TO LOWER CENTRE;hh p MIDDLE o TO LOWER CENTRE",
    "iTO LOWER CENTRE TO MIDDLE o;ho TO LOWER CENTRE TO MIDDLE h",
    "dMIDDLE o TO UPPER CENTRE TO MIDDLE h TO LOWER CENTRE",
    "eh TO UPPER CENTRE TO MIDDLE o TO LOWER CENTRE;dDIAMOND;cy b q v;ARROWHEAD-SHAPED POINTER",
    "INVERSE CHECK MARK;LEFT HALF RUNNING MAN;RIGHT HALF RUNNING MAN;INVERSE DOWNWARDS f b TIP r",
    "LEFTWARDS f p UPPER p LOWER ONE EIGHTH BLOCK;RIGHTWARDS f p UPPER p LOWER ONE EIGHTH BLOCK",
    "DOWNWARDS f p h ONE EIGHTH BLOCK;UPWARDS f p h ONE EIGHTH BLOCK;LEFT HALF FOLDER",
    "RIGHT HALF FOLDER;VOIDED GREEK CROSS;RIGHT OPEN SQUARED DOT;NEGATIVE DIAGONAL CROSS",
    "bMIDDLE h TO LOWER CENTRE;bDIAMOND;WHITE HEAVY SALTIRE b ROUNDED CORNERS",
    "LEFT THIRD z h POINTING INDEX;MIDDLE THIRD z h POINTING INDEX;RIGHT THIRD z h POINTING INDEX",
    "NEGATIVE SQUARED QUESTION MARK;STICK FIGURE;bb ARMS RAISED;bLEANING o;ch;bb DRESS",
    "WHITE UP-POINTING CHEVRON"]),
   (0x1fbf0, ["SEGMENTED DIGIT ZERO;bONE;bTWO;bt;bFOUR;bFIVE;bSIX;bSEVEN;bEIGHT;bNINE"]),
   (0xe0001, ["LANGUAGE TAG"]),
   (0xe0020, [
    "TAG SPACE;aEXCLAMATION MARK;aQUOTATION MARK;aNUMBER g;aDOLLAR g;aPERCENT g;aAMPERSAND",
    "aAPOSTROPHE;ao PARENTHESIS;ah PARENTHESIS;aASTERISK;aPLUS g;aCOMMA;aHYPHEN-MINUS;aFULL STOP",
    "aSOLIDUS;aDIGIT ZERO;bONE;bTWO;bt;bFOUR;bFIVE;bSIX;bSEVEN;bEIGHT;bNINE;aCOLON;aSEMICOLON",
    "aLESS-THAN g;aEQUALS g;aGREATER-THAN g;aQUESTION MARK;aCOMMERCIAL AT;aLATIN c a A;dB;dC;dD;dE",
    "dF;dG;dH;dI;dJ;dK;dL;dM;dN;dO;dP;dQ;dR;dS;dT;dU;dV;dW;dX;dY;dZ;ao SQUARE BRACKET",
    "aREVERSE SOLIDUS;ah SQUARE BRACKET;aCIRCUMFLEX ACCENT;aLOW LINE;aGRAVE ACCENT;aLATIN d a A;dB",
    "dC;dD;dE;dF;dG;dH;dI;dJ;dK;dL;dM;dN;dO;dP;dQ;dR;dS;dT;dU;dV;dW;dX;dY;dZ;ao CURLY BRACKET",
    "aq LINE;ah CURLY BRACKET;aTILDE;CANCEL TAG"]),
   (0xe0100, ["VARIATION SELECTOR-17;+239"])]

end Text
end Literate
