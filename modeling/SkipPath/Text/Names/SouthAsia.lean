/-!
The names of characters of South Asia and its neighbours: those between 900 and 10FF.

Each record holds the number of its first character, the front that its names share, and how each name goes
on.  A number without a name has an empty place.  The ends of lines say nothing.
-/

namespace SkipPath.Text.Names

/-- The names between 900 and 10FF. -/
def southAsia : String :=
"900 DEVANAGARI SIGN :INVERTED CANDRABINDU,CANDRABINDU,ANUSVARA,VISARGA;904 DEVANAGARI LETTER :
SHORT A,A,AA,I,II,U,UU,VOCALIC R,VOCALIC L,CANDRA E,SHORT E,E,AI,CANDRA O,SHORT O,O,AU,KA,KHA,GA,
GHA,NGA,CA,CHA,JA,JHA,NYA,TTA,TTHA,DDA,DDHA,NNA,TA,THA,DA,DHA,NA,NNNA,PA,PHA,BA,BHA,MA,YA,RA,RRA,LA,
LLA,LLLA,VA,SHA,SSA,SA,HA;93A DEVANAGARI :VOWEL SIGN OE,VOWEL SIGN OOE,SIGN NUKTA,SIGN AVAGRAHA;
93E DEVANAGARI VOWEL SIGN :AA,I,II,U,UU,VOCALIC R,VOCALIC RR,CANDRA E,SHORT E,E,AI,CANDRA O,SHORT O,
O,AU;94D DEVANAGARI :SIGN VIRAMA,VOWEL SIGN PRISHTHAMATRA E,VOWEL SIGN AW,OM,STRESS SIGN UDATTA,
STRESS SIGN ANUDATTA,GRAVE ACCENT,ACUTE ACCENT;955 DEVANAGARI VOWEL SIGN :CANDRA LONG E,UE,UUE;
958 DEVANAGARI LETTER :QA,KHHA,GHHA,ZA,DDDHA,RHA,FA,YYA,VOCALIC RR,VOCALIC LL;
962 DEVANAGARI VOWEL SIGN VOCALIC :L,LL;964 DEVANAGARI :DANDA,DOUBLE DANDA;966 DEVANAGARI DIGIT :
ZERO,ONE,TWO,THREE,FOUR,FIVE,SIX,SEVEN,EIGHT,NINE;970 DEVANAGARI :ABBREVIATION SIGN,
SIGN HIGH SPACING DOT;972 DEVANAGARI LETTER :CANDRA A,OE,OOE,AW,UE,UUE,MARWARI DDA,ZHA,HEAVY YA,GGA,
JJA,GLOTTAL STOP,DDDA,BBA;980 BENGALI :ANJI,SIGN CANDRABINDU,SIGN ANUSVARA,SIGN VISARGA;
985 BENGALI LETTER :A,AA,I,II,U,UU,VOCALIC R,VOCALIC L,,,E,AI,,,O,AU,KA,KHA,GA,GHA,NGA,CA,CHA,JA,
JHA,NYA,TTA,TTHA,DDA,DDHA,NNA,TA,THA,DA,DHA,NA,,PA,PHA,BA,BHA,MA,YA,RA,,LA,,,,SHA,SSA,SA,HA;
9BC BENGALI SIGN :NUKTA,AVAGRAHA;9BE BENGALI VOWEL SIGN :AA,I,II,U,UU,VOCALIC R,VOCALIC RR,,,E,AI,,,
O,AU;9CD BENGALI :SIGN VIRAMA,LETTER KHANDA TA,,,,,,,,,AU LENGTH MARK;9DC BENGALI LETTER :RRA,RHA,,
YYA,VOCALIC RR,VOCALIC LL;9E2 BENGALI VOWEL SIGN VOCALIC :L,LL;9E6 BENGALI DIGIT :ZERO,ONE,TWO,
THREE,FOUR,FIVE,SIX,SEVEN,EIGHT,NINE;9F0 BENGALI LETTER RA WITH :MIDDLE DIAGONAL,LOWER DIAGONAL;
9F2 BENGALI RUPEE :MARK,SIGN;9F4 BENGALI CURRENCY NUMERATOR :ONE,TWO,THREE,FOUR,
ONE LESS THAN THE DENOMINATOR;9F9 BENGALI :CURRENCY DENOMINATOR SIXTEEN,ISSHAR,GANDA MARK,
LETTER VEDIC ANUSVARA,ABBREVIATION SIGN,SANDHI MARK;A01 GURMUKHI SIGN :ADAK BINDI,BINDI,VISARGA;
A05 GURMUKHI LETTER :A,AA,I,II,U,UU,,,,,EE,AI,,,OO,AU,KA,KHA,GA,GHA,NGA,CA,CHA,JA,JHA,NYA,TTA,TTHA,
DDA,DDHA,NNA,TA,THA,DA,DHA,NA,,PA,PHA,BA,BHA,MA,YA,RA,,LA,LLA,,VA,SHA,,SA,HA;A3C :
GURMUKHI SIGN NUKTA;A3E GURMUKHI VOWEL SIGN :AA,I,II,U,UU,,,,,EE,AI,,,OO,AU;A4D GURMUKHI SIGN :
VIRAMA,,,,UDAAT;A59 GURMUKHI LETTER :KHHA,GHHA,ZA,RRA,,FA;A66 GURMUKHI DIGIT :ZERO,ONE,TWO,THREE,
FOUR,FIVE,SIX,SEVEN,EIGHT,NINE;A70 GURMUKHI :TIPPI,ADDAK,IRI,URA,EK ONKAR,SIGN YAKASH,
ABBREVIATION SIGN;A81 GUJARATI SIGN :CANDRABINDU,ANUSVARA,VISARGA;A85 GUJARATI LETTER :A,AA,I,II,U,
UU,VOCALIC R,VOCALIC L;A8D GUJARATI :VOWEL CANDRA E,,LETTER E,LETTER AI,VOWEL CANDRA O;
A93 GUJARATI LETTER :O,AU,KA,KHA,GA,GHA,NGA,CA,CHA,JA,JHA,NYA,TTA,TTHA,DDA,DDHA,NNA,TA,THA,DA,DHA,
NA,,PA,PHA,BA,BHA,MA,YA,RA,,LA,LLA,,VA,SHA,SSA,SA,HA;ABC GUJARATI SIGN :NUKTA,AVAGRAHA;
ABE GUJARATI VOWEL SIGN :AA,I,II,U,UU,VOCALIC R,VOCALIC RR,CANDRA E,,E,AI,CANDRA O,,O,AU;
ACD GUJARATI :SIGN VIRAMA,,,OM;AE0 GUJARATI LETTER VOCALIC :RR,LL;AE2 GUJARATI VOWEL SIGN VOCALIC :
L,LL;AE6 GUJARATI DIGIT :ZERO,ONE,TWO,THREE,FOUR,FIVE,SIX,SEVEN,EIGHT,NINE;AF0 GUJARATI :
ABBREVIATION SIGN,RUPEE SIGN,,,,,,,,LETTER ZHA;AFA GUJARATI SIGN :SUKUN,SHADDA,MADDAH,
THREE-DOT NUKTA ABOVE,CIRCLE NUKTA ABOVE,TWO-CIRCLE NUKTA ABOVE;B01 ORIYA SIGN :CANDRABINDU,
ANUSVARA,VISARGA;B05 ORIYA LETTER :A,AA,I,II,U,UU,VOCALIC R,VOCALIC L,,,E,AI,,,O,AU,KA,KHA,GA,GHA,
NGA,CA,CHA,JA,JHA,NYA,TTA,TTHA,DDA,DDHA,NNA,TA,THA,DA,DHA,NA,,PA,PHA,BA,BHA,MA,YA,RA,,LA,LLA,,VA,
SHA,SSA,SA,HA;B3C ORIYA SIGN :NUKTA,AVAGRAHA;B3E ORIYA VOWEL SIGN :AA,I,II,U,UU,VOCALIC R,
VOCALIC RR,,,E,AI,,,O,AU;B4D ORIYA :SIGN VIRAMA,,,,,,,,SIGN OVERLINE,AI LENGTH MARK,AU LENGTH MARK;
B5C ORIYA LETTER :RRA,RHA,,YYA,VOCALIC RR,VOCALIC LL;B62 ORIYA VOWEL SIGN VOCALIC :L,LL;
B66 ORIYA DIGIT :ZERO,ONE,TWO,THREE,FOUR,FIVE,SIX,SEVEN,EIGHT,NINE;B70 ORIYA :ISSHAR,LETTER WA;
B72 ORIYA FRACTION :ONE QUARTER,ONE HALF,THREE QUARTERS,ONE SIXTEENTH,ONE EIGHTH,THREE SIXTEENTHS;
B82 TAMIL SIGN :ANUSVARA,VISARGA;B85 TAMIL LETTER :A,AA,I,II,U,UU,,,,E,EE,AI,,O,OO,AU,KA,,,,NGA,CA,,
JA,,NYA,TTA,,,,NNA,TA,,,,NA,NNNA,PA,,,,MA,YA,RA,RRA,LA,LLA,LLLA,VA,SHA,SSA,SA,HA;
BBE TAMIL VOWEL SIGN :AA,I,II,U,UU,,,,E,EE,AI,,O,OO,AU;BCD TAMIL :SIGN VIRAMA,,,OM,,,,,,,
AU LENGTH MARK;BE6 TAMIL DIGIT :ZERO,ONE,TWO,THREE,FOUR,FIVE,SIX,SEVEN,EIGHT,NINE;BF0 TAMIL NUMBER :
TEN,ONE HUNDRED,ONE THOUSAND;BF3 TAMIL :DAY SIGN,MONTH SIGN,YEAR SIGN,DEBIT SIGN,CREDIT SIGN,
AS ABOVE SIGN,RUPEE SIGN,NUMBER SIGN;C00 TELUGU SIGN :COMBINING CANDRABINDU ABOVE,CANDRABINDU,
ANUSVARA,VISARGA,COMBINING ANUSVARA ABOVE;C05 TELUGU LETTER :A,AA,I,II,U,UU,VOCALIC R,VOCALIC L,,E,
EE,AI,,O,OO,AU,KA,KHA,GA,GHA,NGA,CA,CHA,JA,JHA,NYA,TTA,TTHA,DDA,DDHA,NNA,TA,THA,DA,DHA,NA,,PA,PHA,
BA,BHA,MA,YA,RA,RRA,LA,LLA,LLLA,VA,SHA,SSA,SA,HA;C3C TELUGU SIGN :NUKTA,AVAGRAHA;
C3E TELUGU VOWEL SIGN :AA,I,II,U,UU,VOCALIC R,VOCALIC RR,,E,EE,AI,,O,OO,AU;C4D TELUGU :SIGN VIRAMA,,
,,,,,,LENGTH MARK,AI LENGTH MARK;C58 TELUGU LETTER :TSA,DZA,RRRA,,,NAKAARA POLLU,,,VOCALIC RR,
VOCALIC LL;C62 TELUGU VOWEL SIGN VOCALIC :L,LL;C66 TELUGU DIGIT :ZERO,ONE,TWO,THREE,FOUR,FIVE,SIX,
SEVEN,EIGHT,NINE;C77 :TELUGU SIGN SIDDHAM;C78 TELUGU FRACTION DIGIT :ZERO FOR ODD POWERS OF FOUR,
ONE FOR ODD POWERS OF FOUR,TWO FOR ODD POWERS OF FOUR,THREE FOR ODD POWERS OF FOUR,
ONE FOR EVEN POWERS OF FOUR,TWO FOR EVEN POWERS OF FOUR,THREE FOR EVEN POWERS OF FOUR;C7F :
TELUGU SIGN TUUMU;C80 KANNADA SIGN :SPACING CANDRABINDU,CANDRABINDU,ANUSVARA,VISARGA,SIDDHAM;
C85 KANNADA LETTER :A,AA,I,II,U,UU,VOCALIC R,VOCALIC L,,E,EE,AI,,O,OO,AU,KA,KHA,GA,GHA,NGA,CA,CHA,
JA,JHA,NYA,TTA,TTHA,DDA,DDHA,NNA,TA,THA,DA,DHA,NA,,PA,PHA,BA,BHA,MA,YA,RA,RRA,LA,LLA,,VA,SHA,SSA,SA,
HA;CBC KANNADA SIGN :NUKTA,AVAGRAHA;CBE KANNADA VOWEL SIGN :AA,I,II,U,UU,VOCALIC R,VOCALIC RR,,E,EE,
AI,,O,OO,AU;CCD KANNADA :SIGN VIRAMA,,,,,,,,LENGTH MARK,AI LENGTH MARK;CDD KANNADA LETTER :
NAKAARA POLLU,FA,,VOCALIC RR,VOCALIC LL;CE2 KANNADA VOWEL SIGN VOCALIC :L,LL;CE6 KANNADA DIGIT :
ZERO,ONE,TWO,THREE,FOUR,FIVE,SIX,SEVEN,EIGHT,NINE;CF1 KANNADA SIGN :JIHVAMULIYA,UPADHMANIYA;
D00 MALAYALAM SIGN :COMBINING ANUSVARA ABOVE,CANDRABINDU,ANUSVARA,VISARGA;D04 MALAYALAM LETTER :
VEDIC ANUSVARA,A,AA,I,II,U,UU,VOCALIC R,VOCALIC L,,E,EE,AI,,O,OO,AU,KA,KHA,GA,GHA,NGA,CA,CHA,JA,JHA,
NYA,TTA,TTHA,DDA,DDHA,NNA,TA,THA,DA,DHA,NA,NNNA,PA,PHA,BA,BHA,MA,YA,RA,RRA,LA,LLA,LLLA,VA,SHA,SSA,
SA,HA,TTTA;D3B MALAYALAM SIGN :VERTICAL BAR VIRAMA,CIRCULAR VIRAMA,AVAGRAHA;
D3E MALAYALAM VOWEL SIGN :AA,I,II,U,UU,VOCALIC R,VOCALIC RR,,E,EE,AI,,O,OO,AU;D4D MALAYALAM :
SIGN VIRAMA,LETTER DOT REPH,SIGN PARA,,,,,LETTER CHILLU M,LETTER CHILLU Y,LETTER CHILLU LLL,
AU LENGTH MARK;D58 MALAYALAM FRACTION :ONE ONE-HUNDRED-AND-SIXTIETH,ONE FORTIETH,THREE EIGHTIETHS,
ONE TWENTIETH,ONE TENTH,THREE TWENTIETHS,ONE FIFTH;D5F MALAYALAM LETTER :ARCHAIC II,VOCALIC RR,
VOCALIC LL;D62 MALAYALAM VOWEL SIGN VOCALIC :L,LL;D66 MALAYALAM DIGIT :ZERO,ONE,TWO,THREE,FOUR,FIVE,
SIX,SEVEN,EIGHT,NINE;D70 MALAYALAM NUMBER :TEN,ONE HUNDRED,ONE THOUSAND;D73 MALAYALAM FRACTION :
ONE QUARTER,ONE HALF,THREE QUARTERS,ONE SIXTEENTH,ONE EIGHTH,THREE SIXTEENTHS;D79 :
MALAYALAM DATE MARK;D7A MALAYALAM LETTER CHILLU :NN,N,RR,L,LL,K;D81 SINHALA SIGN :CANDRABINDU,
ANUSVARAYA,VISARGAYA;D85 SINHALA LETTER :AYANNA,AAYANNA,AEYANNA,AEEYANNA,IYANNA,IIYANNA,UYANNA,
UUYANNA,IRUYANNA,IRUUYANNA,ILUYANNA,ILUUYANNA,EYANNA,EEYANNA,AIYANNA,OYANNA,OOYANNA,AUYANNA,,,,
ALPAPRAANA KAYANNA,MAHAAPRAANA KAYANNA,ALPAPRAANA GAYANNA,MAHAAPRAANA GAYANNA,KANTAJA NAASIKYAYA,
SANYAKA GAYANNA,ALPAPRAANA CAYANNA,MAHAAPRAANA CAYANNA,ALPAPRAANA JAYANNA,MAHAAPRAANA JAYANNA,
TAALUJA NAASIKYAYA,TAALUJA SANYOOGA NAAKSIKYAYA,SANYAKA JAYANNA,ALPAPRAANA TTAYANNA,
MAHAAPRAANA TTAYANNA,ALPAPRAANA DDAYANNA,MAHAAPRAANA DDAYANNA,MUURDHAJA NAYANNA,SANYAKA DDAYANNA,
ALPAPRAANA TAYANNA,MAHAAPRAANA TAYANNA,ALPAPRAANA DAYANNA,MAHAAPRAANA DAYANNA,DANTAJA NAYANNA,,
SANYAKA DAYANNA,ALPAPRAANA PAYANNA,MAHAAPRAANA PAYANNA,ALPAPRAANA BAYANNA,MAHAAPRAANA BAYANNA,
MAYANNA,AMBA BAYANNA,YAYANNA,RAYANNA,,DANTAJA LAYANNA,,,VAYANNA,TAALUJA SAYANNA,MUURDHAJA SAYANNA,
DANTAJA SAYANNA,HAYANNA,MUURDHAJA LAYANNA,FAYANNA;DCA :SINHALA SIGN AL-LAKUNA;
DCF SINHALA VOWEL SIGN :AELA-PILLA,KETTI AEDA-PILLA,DIGA AEDA-PILLA,KETTI IS-PILLA,DIGA IS-PILLA,
KETTI PAA-PILLA,,DIGA PAA-PILLA,,GAETTA-PILLA,KOMBUVA,DIGA KOMBUVA,KOMBU DEKA,
KOMBUVA HAA AELA-PILLA,KOMBUVA HAA DIGA AELA-PILLA,KOMBUVA HAA GAYANUKITTA,GAYANUKITTA;
DE6 SINHALA LITH DIGIT :ZERO,ONE,TWO,THREE,FOUR,FIVE,SIX,SEVEN,EIGHT,NINE;
DF2 SINHALA VOWEL SIGN DIGA :GAETTA-PILLA,GAYANUKITTA;DF4 :SINHALA PUNCTUATION KUNDDALIYA;
E01 THAI CHARACTER :KO KAI,KHO KHAI,KHO KHUAT,KHO KHWAI,KHO KHON,KHO RAKHANG,NGO NGU,CHO CHAN,
CHO CHING,CHO CHANG,SO SO,CHO CHOE,YO YING,DO CHADA,TO PATAK,THO THAN,THO NANGMONTHO,THO PHUTHAO,
NO NEN,DO DEK,TO TAO,THO THUNG,THO THAHAN,THO THONG,NO NU,BO BAIMAI,PO PLA,PHO PHUNG,FO FA,PHO PHAN,
FO FAN,PHO SAMPHAO,MO MA,YO YAK,RO RUA,RU,LO LING,LU,WO WAEN,SO SALA,SO RUSI,SO SUA,HO HIP,LO CHULA,
O ANG,HO NOKHUK,PAIYANNOI,SARA A,MAI HAN-AKAT,SARA AA,SARA AM,SARA I,SARA II,SARA UE,SARA UEE,
SARA U,SARA UU,PHINTHU;E3F :THAI CURRENCY SYMBOL BAHT;E40 THAI CHARACTER :SARA E,SARA AE,SARA O,
SARA AI MAIMUAN,SARA AI MAIMALAI,LAKKHANGYAO,MAIYAMOK,MAITAIKHU,MAI EK,MAI THO,MAI TRI,MAI CHATTAWA,
THANTHAKHAT,NIKHAHIT,YAMAKKAN,FONGMAN;E50 THAI DIGIT :ZERO,ONE,TWO,THREE,FOUR,FIVE,SIX,SEVEN,EIGHT,
NINE;E5A THAI CHARACTER :ANGKHANKHU,KHOMUT;E81 LAO LETTER :KO,KHO SUNG,,KHO TAM,,PALI GHA,NGO,CO,
PALI CHA,SO TAM,,PALI JHA,NYO,PALI NYA,PALI TTA,PALI TTHA,PALI DDA,PALI DDHA,PALI NNA,DO,TO,
THO SUNG,THO TAM,PALI DHA,NO,BO,PO,PHO SUNG,FO TAM,PHO TAM,FO SUNG,PALI BHA,MO,YO,LO LING,,LO LOOT,,
WO,SANSKRIT SHA,SANSKRIT SSA,SO SUNG,HO SUNG,PALI LLA,O,HO TAM;EAF :LAO ELLIPSIS;
EB0 LAO VOWEL SIGN :A,MAI KAN,AA,AM,I,II,Y,YY,U,UU;EBA LAO :SIGN PALI VIRAMA,VOWEL SIGN MAI KON;
EBC LAO SEMIVOWEL SIGN :LO,NYO;EC0 LAO VOWEL SIGN :E,EI,O,AY,AI;EC6 :LAO KO LA;EC8 LAO TONE MAI :EK,
THO,TI,CATAWA;ECC LAO :CANCELLATION MARK,NIGGAHITA;ED0 LAO DIGIT :ZERO,ONE,TWO,THREE,FOUR,FIVE,SIX,
SEVEN,EIGHT,NINE;EDC LAO HO :NO,MO;EDE LAO LETTER KHMU :GO,NYO;F00 :TIBETAN SYLLABLE OM;
F01 TIBETAN MARK GTER YIG MGO :TRUNCATED A,-UM RNAM BCAD MA,-UM GTER TSHEG MA;F04 TIBETAN MARK :
INITIAL YIG MGO MDUN MA,CLOSING YIG MGO SGAB MA,CARET YIG MGO PHUR SHAD MA,YIG MGO TSHEG SHAD MA,
SBRUL SHAD,BSKUR YIG MGO,BKA- SHOG YIG MGO,INTERSYLLABIC TSHEG,DELIMITER TSHEG BSTAR,SHAD,NYIS SHAD,
TSHEG SHAD,NYIS TSHEG SHAD,RIN CHEN SPUNGS SHAD,RGYA GRAM SHAD,CARET -DZUD RTAGS ME LONG CAN,
GTER TSHEG;F15 TIBETAN LOGOTYPE SIGN :CHAD RTAGS,LHAG RTAGS;F17 TIBETAN ASTROLOGICAL SIGN :
SGRA GCAN -CHAR RTAGS,-KHYUD PA,SDONG TSHUGS;F1A TIBETAN SIGN RDEL :DKAR GCIG,DKAR GNYIS,DKAR GSUM,
NAG GCIG,NAG GNYIS,DKAR RDEL NAG;F20 TIBETAN DIGIT :ZERO,ONE,TWO,THREE,FOUR,FIVE,SIX,SEVEN,EIGHT,
NINE;F2A TIBETAN DIGIT HALF :ONE,TWO,THREE,FOUR,FIVE,SIX,SEVEN,EIGHT,NINE,ZERO;F34 TIBETAN MARK :
BSDUS RTAGS,NGAS BZUNG NYI ZLA,CARET -DZUD RTAGS BZHI MIG CAN,NGAS BZUNG SGOR RTAGS,CHE MGO,
TSA -PHRU,GUG RTAGS GYON,GUG RTAGS GYAS,ANG KHANG GYON,ANG KHANG GYAS;F3E TIBETAN SIGN :YAR TSHES,
MAR TSHES;F40 TIBETAN LETTER :KA,KHA,GA,GHA,NGA,CA,CHA,JA,,NYA,TTA,TTHA,DDA,DDHA,NNA,TA,THA,DA,DHA,
NA,PA,PHA,BA,BHA,MA,TSA,TSHA,DZA,DZHA,WA,ZHA,ZA,-A,YA,RA,LA,SHA,SSA,SA,HA,A,KSSA,FIXED-FORM RA,KKA,
RRA;F71 TIBETAN VOWEL SIGN :AA,I,II,U,UU,VOCALIC R,VOCALIC RR,VOCALIC L,VOCALIC LL,E,EE,O,OO;
F7E TIBETAN :SIGN RJES SU NGA RO,SIGN RNAM BCAD,VOWEL SIGN REVERSED I,VOWEL SIGN REVERSED II,
SIGN NYI ZLA NAA DA,SIGN SNA LDAN,MARK HALANTA,MARK PALUTA;F86 TIBETAN SIGN :LCI RTAGS,YANG RTAGS,
LCE TSA CAN,MCHU CAN,GRU CAN RGYINGS,GRU MED RGYINGS,INVERTED MCHU CAN;F8D TIBETAN SUBJOINED SIGN :
LCE TSA CAN,MCHU CAN,INVERTED MCHU CAN;F90 TIBETAN SUBJOINED LETTER :KA,KHA,GA,GHA,NGA,CA,CHA,JA,,
NYA,TTA,TTHA,DDA,DDHA,NNA,TA,THA,DA,DHA,NA,PA,PHA,BA,BHA,MA,TSA,TSHA,DZA,DZHA,WA,ZHA,ZA,-A,YA,RA,LA,
SHA,SSA,SA,HA,A,KSSA,FIXED-FORM WA,FIXED-FORM YA,FIXED-FORM RA;FBE TIBETAN KU RU :KHA,
KHA BZHI MIG CAN;FC0 TIBETAN CANTILLATION SIGN :HEAVY BEAT,LIGHT BEAT,CANG TE-U,SBUB -CHAL;
FC4 TIBETAN SYMBOL :DRIL BU,RDO RJE,PADMA GDAN,RDO RJE RGYA GRAM,PHUR PA,NOR BU,NOR BU NYIS -KHYIL,
NOR BU GSUM -KHYIL,NOR BU BZHI -KHYIL;FCE TIBETAN SIGN RDEL NAG :RDEL DKAR,GSUM;FD0 TIBETAN MARK :
BSKA- SHOG GI MGO RGYAN,MNYAM YIG GI MGO RGYAN,NYIS TSHEG,INITIAL BRDA RNYING YIG MGO MDUN MA,
CLOSING BRDA RNYING YIG MGO SGAB MA;FD5 :RIGHT-FACING SVASTI SIGN,LEFT-FACING SVASTI SIGN,
RIGHT-FACING SVASTI SIGN WITH DOTS,LEFT-FACING SVASTI SIGN WITH DOTS;FD9 TIBETAN MARK :
LEADING MCHAN RTAGS,TRAILING MCHAN RTAGS;1000 MYANMAR LETTER :KA,KHA,GA,GHA,NGA,CA,CHA,JA,JHA,NYA,
NNYA,TTA,TTHA,DDA,DDHA,NNA,TA,THA,DA,DHA,NA,PA,PHA,BA,BHA,MA,YA,RA,LA,WA,SA,HA,LLA,A,SHAN A,I,II,U,
UU,E,MON E,O,AU;102B MYANMAR VOWEL SIGN :TALL AA,AA,I,II,U,UU,E,AI,MON II,MON O,E ABOVE;
1036 MYANMAR SIGN :ANUSVARA,DOT BELOW,VISARGA,VIRAMA,ASAT;103B MYANMAR CONSONANT SIGN MEDIAL :YA,RA,
WA,HA;103F :MYANMAR LETTER GREAT SA;1040 MYANMAR DIGIT :ZERO,ONE,TWO,THREE,FOUR,FIVE,SIX,SEVEN,
EIGHT,NINE;104A MYANMAR SIGN :LITTLE SECTION,SECTION;104C MYANMAR SYMBOL :LOCATIVE,COMPLETED,
AFOREMENTIONED,GENITIVE;1050 MYANMAR LETTER :SHA,SSA;1052 MYANMAR LETTER VOCALIC :R,RR,L,LL;
1056 MYANMAR VOWEL SIGN VOCALIC :R,RR,L,LL;105A MYANMAR LETTER MON :NGA,JHA,BBA,BBE;
105E MYANMAR CONSONANT SIGN MON MEDIAL :NA,MA,LA;1061 MYANMAR :LETTER SGAW KAREN SHA,
VOWEL SIGN SGAW KAREN EU;1063 MYANMAR TONE MARK SGAW KAREN :HATHI,KE PHO;
1065 MYANMAR LETTER WESTERN PWO KAREN :THA,PWA;1067 MYANMAR VOWEL SIGN WESTERN PWO KAREN :EU,UE;
1069 MYANMAR SIGN WESTERN PWO KAREN TONE-:1,2,3,4,5;106E MYANMAR LETTER EASTERN PWO KAREN :NNA,YWA,
GHWA;1071 MYANMAR VOWEL SIGN :GEBA KAREN I,KAYAH OE,KAYAH U,KAYAH EE;1075 MYANMAR LETTER SHAN :KA,
KHA,GA,CA,ZA,NYA,DA,NA,PHA,FA,BA,THA,HA;1082 :MYANMAR CONSONANT SIGN SHAN MEDIAL WA;
1083 MYANMAR VOWEL SIGN SHAN :AA,E,E ABOVE,FINAL Y;1087 MYANMAR SIGN SHAN TONE-:2,3,5,6;
108B MYANMAR SIGN SHAN COUNCIL :TONE-2,TONE-3,EMPHATIC TONE;108E MYANMAR :LETTER RUMAI PALAUNG FA,
SIGN RUMAI PALAUNG TONE-5;1090 MYANMAR SHAN DIGIT :ZERO,ONE,TWO,THREE,FOUR,FIVE,SIX,SEVEN,EIGHT,
NINE;109A MYANMAR SIGN KHAMTI TONE-:1,3;109C MYANMAR VOWEL SIGN AITON :A,AI;
109E MYANMAR SYMBOL SHAN :ONE,EXCLAMATION;10A0 GEORGIAN CAPITAL LETTER :AN,BAN,GAN,DON,EN,VIN,ZEN,
TAN,IN,KAN,LAS,MAN,NAR,ON,PAR,ZHAR,RAE,SAN,TAR,UN,PHAR,KHAR,GHAN,QAR,SHIN,CHIN,CAN,JIL,CIL,CHAR,XAN,
JHAN,HAE,HE,HIE,WE,HAR,HOE,,YN,,,,,,AEN;10D0 GEORGIAN LETTER :AN,BAN,GAN,DON,EN,VIN,ZEN,TAN,IN,KAN,
LAS,MAN,NAR,ON,PAR,ZHAR,RAE,SAN,TAR,UN,PHAR,KHAR,GHAN,QAR,SHIN,CHIN,CAN,JIL,CIL,CHAR,XAN,JHAN,HAE,
HE,HIE,WE,HAR,HOE,FI,YN,ELIFI,TURNED GAN,AIN;10FB :GEORGIAN PARAGRAPH SEPARATOR,
MODIFIER LETTER GEORGIAN NAR;10FD GEORGIAN LETTER :AEN,HARD SIGN,LABIAL SIGN;"

end SkipPath.Text.Names
