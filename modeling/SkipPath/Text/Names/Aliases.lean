/-!
Second names of characters: the names of controls, names in place of mistaken ones, and abbreviations.

Each record holds the number of its first character, the front that its names share, and how each name goes
on.  A number without a name has an empty place.  The ends of lines say nothing.
-/

namespace SkipPath.Text.Names

/-- Second names. -/
def aliases : String :=
"0 :NULL,START OF HEADING,START OF TEXT,END OF TEXT,END OF TRANSMISSION,ENQUIRY,ACKNOWLEDGE,ALERT,
BACKSPACE,CHARACTER TABULATION,LINE FEED,LINE TABULATION,FORM FEED,CARRIAGE RETURN,SHIFT OUT,
SHIFT IN,DATA LINK ESCAPE;11 DEVICE CONTROL :ONE,TWO,THREE,FOUR;15 :NEGATIVE ACKNOWLEDGE,
SYNCHRONOUS IDLE,END OF TRANSMISSION BLOCK,CANCEL,END OF MEDIUM,SUBSTITUTE,ESCAPE;
1C INFORMATION SEPARATOR :FOUR,THREE,TWO,ONE;20 :SP;7F :DELETE,PADDING CHARACTER,HIGH OCTET PRESET,
BREAK PERMITTED HERE,NO BREAK HERE,INDEX,NEXT LINE,START OF SELECTED AREA,END OF SELECTED AREA;
88 CHARACTER TABULATION :SET,WITH JUSTIFICATION;8A :LINE TABULATION SET,PARTIAL LINE FORWARD,
PARTIAL LINE BACKWARD,REVERSE LINE FEED,SINGLE SHIFT TWO,SINGLE SHIFT THREE,DEVICE CONTROL STRING,
PRIVATE USE ONE,PRIVATE USE TWO,SET TRANSMIT STATE,CANCEL CHARACTER,MESSAGE WAITING,
START OF GUARDED AREA,END OF GUARDED AREA,START OF STRING,SINGLE GRAPHIC CHARACTER INTRODUCER,
SINGLE CHARACTER INTRODUCER,CONTROL SEQUENCE INTRODUCER,STRING TERMINATOR,OPERATING SYSTEM COMMAND,
PRIVACY MESSAGE,APPLICATION PROGRAM COMMAND,NBSP;AD :SHY;1A2 LATIN :CAPITAL LETTER GHA,
SMALL LETTER GHA;34F :CGJ;61C :ALM;709 :SYRIAC SUBLINEAR COLON SKEWED LEFT;CDE :KANNADA LETTER LLLA;
E9D LAO LETTER :FO FON,,FO FAY,,,,RO,,LO;FD0 :TIBETAN MARK BKA- SHOG GI MGO RGYAN;
11EC HANGUL JONGSEONG :YESIEUNG-KIYEOK,YESIEUNG-SSANGKIYEOK,SSANGYESIEUNG,YESIEUNG-KHIEUKH;180B :
FVS1,FVS2,FVS3,MVS,FVS4;200B :ZWSP,ZWNJ,ZWJ,LRM,RLM;202A :LRE,RLE,PDF,LRO,RLO,NNBSP;205F :MMSP,WJ,,,
,,,LRI,RLI,FSI,PDI;2118 :WEIERSTRASS ELLIPTIC FUNCTION;2448 MICR :ON US SYMBOL,DASH SYMBOL;2B7A :
LEFTWARDS TRIANGLE-HEADED ARROW WITH DOUBLE VERTICAL STROKE,,
RIGHTWARDS TRIANGLE-HEADED ARROW WITH DOUBLE VERTICAL STROKE;A015 :YI SYLLABLE ITERATION MARK;AA6E :
MYANMAR LETTER KHAMTI LLA;FE18 :PRESENTATION FORM FOR VERTICAL RIGHT WHITE LENTICULAR BRACKET;FEFF :
BYTE ORDER MARK;122D4 CUNEIFORM SIGN NU11 :TENU,OVER NU11 BUR OVER BUR;
16E56 MEDEFAIDRIN CAPITAL LETTER :H,NG;16E76 MEDEFAIDRIN SMALL LETTER :H,NG;1B001 :
HENTAIGANA LETTER E-1;1D0C5 :BYZANTINE MUSICAL SYMBOL FTHORA SKLIRON CHROMA VASIS;0 :NUL,SOH,STX,
ETX,EOT,ENQ,ACK,BEL,BS,HORIZONTAL TABULATION,NEW LINE,VERTICAL TABULATION,FF,CR;E LOCKING-SHIFT :
ONE,ZERO;10 :DLE,DC1,DC2,DC3,DC4,NAK,SYN,ETB,CAN,EOM,SUB,ESC,FILE SEPARATOR,GROUP SEPARATOR,
RECORD SEPARATOR,UNIT SEPARATOR;7F :DEL,PAD,HOP,BPH,NBH,IND,NEL,SSA,ESA;88 HORIZONTAL TABULATION :
SET,WITH JUSTIFICATION;8A :VERTICAL TABULATION SET,PARTIAL LINE DOWN,PARTIAL LINE UP,REVERSE INDEX,
SINGLE-SHIFT-2,SINGLE-SHIFT-3,DCS,PRIVATE USE-1,PRIVATE USE-2,STS,CCH,MW,START OF PROTECTED AREA,
END OF PROTECTED AREA,SOS,SGC,SCI,CSI,ST,OSC,PM,APC;FEFF :BOM;9 :HT,END OF LINE,VT,,,SO,SI;1C :FS,
GS,RS,US;88 :HTS,HTJ,VTS,PLD,PLU,RI,SS2,SS3,,PU1,PU2,,,,SPA,EPA;FEFF :ZWNBSP;9 :TAB,EOL;A :LF;A :NL;"

end SkipPath.Text.Names
