import Literate.Text.Name.Run

/-!
# Names of characters: aliases

Controls have no name but one or several aliases; a few other characters have
them as well.
-/

namespace Literate
namespace Text

/-- The further names of characters. -/
def aliasNames : NameRuns :=
  [(0x0, [
    "NUL;START OF HEADING;bTEXT;END OF TEXT;bTRANSMISSION;ENQUIRY;ACKNOWLEDGE;ALERT;BACKSPACE",
    "CHARACTER TABULATION;END OF LINE;LINE TABULATION;FORM FEED;CARRIAGE RETURN;LOCKING-SHIFT ONE",
    "aZERO;DATA LINK ESCAPE;DEVICE CONTROL ONE;bTWO;bt;bFOUR;NEGATIVE ACKNOWLEDGE;SYNCHRONOUS IDLE",
    "END OF TRANSMISSION BLOCK;CANCEL;END OF MEDIUM;SUBSTITUTE;ESCAPE;FILE SEPARATOR",
    "GROUP SEPARATOR;INFORMATION SEPARATOR TWO;bONE;SP"]),
   (0x7f, [
    "DELETE;PADDING CHARACTER;HIGH OCTET PRESET;BREAK PERMITTED HERE;NO BREAK HERE;INDEX;NEXT LINE",
    "START OF SELECTED AREA;END OF SELECTED AREA;CHARACTER TABULATION SET;bb JUSTIFICATION",
    "LINE TABULATION SET;PARTIAL LINE DOWN;bBACKWARD;REVERSE INDEX;SINGLE SHIFT TWO;bt",
    "DEVICE CONTROL STRING;PRIVATE USE ONE;bTWO;SET TRANSMIT STATE;CANCEL CHARACTER",
    "MESSAGE WAITING;START OF GUARDED AREA;END OF GUARDED AREA;START OF STRING",
    "SINGLE GRAPHIC CHARACTER INTRODUCER;aCHARACTER INTRODUCER;CONTROL SEQUENCE INTRODUCER",
    "STRING TERMINATOR;OPERATING SYSTEM COMMAND;PRIVACY MESSAGE;APPLICATION PROGRAM COMMAND;NBSP"]),
   (0xad, ["SHY"]),
   (0x1a2, ["LATIN c a GHA;ad a GHA"]),
   (0x34f, ["CGJ"]),
   (0x61c, ["ALM"]),
   (0x709, ["SYRIAC SUBLINEAR COLON SKEWED o"]),
   (0xcde, ["KANNADA a LLLA"]),
   (0xe9d, ["LAO a FO FON"]),
   (0xe9f, ["LAO a FO FAY"]),
   (0xea3, ["LAO a RO"]),
   (0xea5, ["LAO a LO"]),
   (0xfd0, ["TIBETAN MARK BKA- SHOG GI MGO RGYAN"]),
   (0x11ec, [
    "HANGUL JONGSEONG YESIEUNG-KIYEOK;bYESIEUNG-SSANGKIYEOK;bSSANGYESIEUNG;bYESIEUNG-KHIEUKH"]),
   (0x180b, ["FVS1;+2;MVS;FVS4"]),
   (0x200b, ["ZWSP;ZWNJ;ZWJ;LRM;RLM"]),
   (0x202a, ["LRE;RLE;PDF;LRO;RLO;NNBSP"]),
   (0x205f, ["MMSP;WJ"]),
   (0x2066, ["LRI;RLI;FSI;PDI"]),
   (0x2118, ["WEIERSTRASS ELLIPTIC FUNCTION"]),
   (0x2448, ["MICR ON US w;aDASH w"]),
   (0x2b7a, ["LEFTWARDS u f b l q v"]),
   (0x2b7c, ["RIGHTWARDS u f b l q v"]),
   (0xa015, ["YI SYLLABLE ITERATION MARK"]),
   (0xaa6e, ["MYANMAR a KHAMTI LLA"]),
   (0xfe00, ["VS1;+15"]),
   (0xfe18, ["PRESENTATION e FOR q h z LENTICULAR BRACKET"]),
   (0xfeff, ["BYTE ORDER MARK"]),
   (0x122d4, ["CUNEIFORM g NU11 TENU;cOVER NU11 BUR OVER BUR"]),
   (0x16e56, ["MEDEFAIDRIN c a H;cNG"]),
   (0x16e76, ["MEDEFAIDRIN d a H;cNG"]),
   (0x1b001, ["HENTAIGANA a E-1"]),
   (0x1d0c5, ["BYZANTINE MUSICAL w FTHORA SKLIRON CHROMA VASIS"]),
   (0xe0100, ["VS17;+239"]),
   (0x0, [
    "NULL;SOH;STX;ETX;EOT;ENQ;ACK;BEL;BS;HORIZONTAL TABULATION;LINE FEED;VERTICAL TABULATION;FF;CR",
    "SHIFT OUT;aIN;DLE;DC1;+3;NAK;SYN;ETB;CAN;EOM;SUB;ESC;INFORMATION SEPARATOR FOUR;bt",
    "RECORD SEPARATOR;UNIT SEPARATOR"]),
   (0x7f, [
    "DEL;PAD;HOP;BPH;NBH;IND;NEL;SSA;ESA;HORIZONTAL TABULATION SET;bb JUSTIFICATION",
    "VERTICAL TABULATION SET;PARTIAL LINE FORWARD;bUP;REVERSE LINE FEED;SINGLE-SHIFT-2",
    "SINGLE-SHIFT-3;DCS;PRIVATE USE-1;aUSE-2;STS;CCH;MW;START OF PROTECTED AREA",
    "END OF PROTECTED AREA;SOS;SGC;SCI;CSI;ST;OSC;PM;APC"]),
   (0xfeff, ["ZWNBSP"]),
   (0x9, ["HT;NEW LINE;VT"]),
   (0xe, ["SO;SI"]),
   (0x1c, ["FS;GS;RS;US"]),
   (0x88, ["HTS;HTJ;VTS;PLD;PLU;RI;SS2;SS3"]),
   (0x91, ["PU1;PU2"]),
   (0x96, ["SPA;EPA"]),
   (0xfeff, ["BOM"]),
   (0x9, ["TAB;EOL"]),
   (0xa, ["LF"]),
   (0xa, ["NL"])]

end Text
end Literate
