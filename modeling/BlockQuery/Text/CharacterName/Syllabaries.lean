/-!
# Names of letters and syllables

The names of the letters, vowel signs and syllables of Africa, Asia and America.
The lines make up one text, of groups of names between semicolons: what the names of
a group have in common, a colon, and their endings. Small letters and other signs
stand for words.
-/

namespace BlockQuery.Text.CharacterName

/-- The names of the letters, vowel signs and syllables of Africa, Asia and America. -/
def syllabaries : List String :=
  [":HANGUL FILLER,HANUNOOd PAMUDPOD,KHMER CURRENCYk RIEL,SINHALA PUNCTUATION KUNDDALIYA,",
    "SUNDANESE AVAGRAHA,TAI THAM COMBINING CRYPTOGRAMMIC %,THAI CURRENCYk BAHT;",
    "BALINESE :ADEG ADEG,PAMADA,PAMADA LANTANG,PAMENENG,PANTI,PANTI LANTANG,WINDU;",
    "BALINESE CARIK :PAMUNGKAH,PAREREN,SIKI;BALINESE.:&,FIVE,_,NINE,!,@,SIX,r,|,ZERO;",
    "BALINESEb:AIKARA,AKARA,AKARA TEDUNG,ARCHAIC JNYA,ASYURA SASAK,BA,BA KEMBANG,CA,CA LACA,DA,",
    "DA MADU,DA MURDA ALPAPRANA,DA MURDA MAHAPRANA,EF SASAK,EKARA,GA,GA GORA,HA,IKARA,",
    "IKARA TEDUNG,JA,JA JERA,KA,KA MAHAPRANA,KAF SASAK,KHOT SASAK,LA,LA LENGA,LA LENGA TEDUNG,MA,",
    "NA,NA RAMBAT,NGA,NYA,OKARA,OKARA TEDUNG,PA,PA KAPAL,RA,RA REPA,RA REPA TEDUNG,SA,SA SAGA,",
    "SA SAPA,TA,TA LATIK,TA MURDA MAHAPRANA,TA TAWA,TZIR SASAK,UKARA,UKARA TEDUNG,VE SASAK,WA,YA,",
    "ZAL SASAK;BALINESE MUSICALk :DAENG,DAING,DANG,DANG GEDE,DANG SURANG,DENG,DEUNG,DING,DONG,",
    "DUNG;BALINESE MUSICALk COMBINING :BENDE,ENDEP,GONG,JEGOGAN,KEMPLI,KEMPLIaJEGOGAN,KEMPUL,",
    "KEMPULaJEGOGAN,TEGEH;BALINESE MUSICALk s-HAND :CLOSED PLAK,CLOSED PLUK,OPEN PANG,OPEN PING,",
    "OPEN PUNG;BALINESE MUSICALk i-HAND :CLOSED TAK,CLOSED TUK,OPEN DAG,OPEN DUG;BALINESEd :BISAH,",
    "CECEK,REREKAN,SURANG,ULU CANDRA,ULU RICEM;BALINESE VOWELd :LA LENGA,LA LENGA TEDUNG,PEPET,",
    "PEPET TEDUNG,RA REPA,RA REPA TEDUNG,SUKU,SUKU ILUT,TALING,TALING REPA,TALING REPA TEDUNG,",
    "TALING TEDUNG,TEDUNG,ULU,ULU SARI;BATAK :PANGOLAT,PANONGONAN,SIGN TOMPI;BATAK CONSONANTd :H,",
    "NG;BATAKb:A,BA,CA,DA,GA,HA,I,JA,KARO BA,LA,MA,MBA,NA,NDA,NGA,NORTHERN TA,NYA,PA,PAKPAK WA,RA,",
    "SA,SOUTHERN TA,U,WA,YA;BATAKbMANDAILING :HA,NA,SA;BATAKbSIMALUNGUN :A,GA,HA,LA,MA,PA,RA,SA,",
    "WA,YA;BATAKk BINDU :JUDUL,NA METEK,PANGOLAT,PINARBORAS;BATAK VOWELd :E,EE,I,KARO I,KARO O,O,",
    "PAKPAK E,U,U FOR SIMALUNGUN SA;BENGALI :ABBREVIATIONd,ANJI,AU LENGTHn,",
    "CURRENCY DENOMINATOR SIXTEEN,GANDAn,ISSHAR,RUPEEn,RUPEEd,SANDHIn;",
    "BENGALI CURRENCY NUMERATOR :_,!,! LESS THAN THE DENOMINATOR,r,|;BENGALI.:&,FIVE,_,NINE,!,@,",
    "SIX,r,|,ZERO;BENGALIb:A,AA,AI,AU,BA,BHA,CA,CHA,DA,DDA,DDHA,DHA,E,GA,GHA,HA,I,II,JA,JHA,KA,",
    "KHA,KHANDA TA,LA,MA,NA,NGA,NNA,NYA,O,PA,PHA,RA,RAaLOWER DIAGONAL,RAa*DIAGONAL,RHA,RRA,SA,SHA,",
    "SSA,TA,THA,TTA,TTHA,U,UU,VEDIC ANUSVARA,YA,YYA;BENGALIbVOCALIC :L,LL,R,RR;BENGALId :ANUSVARA,",
    "AVAGRAHA,CANDRABINDU,NUKTA,VIRAMA,VISARGA;BENGALI VOWELd :AA,AI,AU,E,I,II,O,U,UU;",
    "BENGALI VOWELd VOCALIC :L,LL,R,RR;BOPOMOFO ob:G,H,K,P,T;BOPOMOFOb:A,AH,AI,AINN,AM,AN,ANG,ANN,",
    "AU,AUNN,B,BU,C,CH,D,E,EE,EH,EI,EN,ENG,ENN,ER,F,G,GH,GN,GU,GW,H,I,IH,IM,INN,INNN,IR,IU,J,JI,K,",
    "KW,L,LH,M,N,NG,NGG,NN,O,Oa%f,OE,OM,ONG,ONN,OO,OU,P,Q,R,S,SH,T,U,UNN,V,X,Z,ZH,ZI,ZY;",
    "BUGINESE :END OF SECTION,PALLAWA;BUGINESEb:A,BA,CA,DA,GA,HA,JA,KA,LA,MA,MPA,NA,NGA,NGKA,NRA,",
    "NYA,NYCA,PA,RA,SA,TA,VA,YA;BUGINESE VOWELd :AE,E,I,O,U;BUHIDb:A,BA,DA,GA,HA,I,KA,LA,MA,NA,",
    "NGA,PA,RA,SA,TA,U,WA,YA;BUHID VOWELd :I,U;CANADIAN SYLLABICS :A,AA,AAI,AAY,AI,AIVILIK B,AN,",
    "ATHAPASCAN M,ATHAPASCAN S,AY,BEAVER DENE L,BEAVER DENE R,BIBLE-CREE Y,C,CA,CAA,CAAI,CE,CHId,",
    "CI,CII,CO,COO,CWA,CWAA,CWE,CWI,CWII,CWO,CWOO,E,EASTERN W,EN,F,FA,FAA,FAAI,FE,FI,FII,FO,FOO,",
    "FULL STOP,FWAA,GLOTTAL STOP,HK,HYPHEN,I,II,IN,K,KA,KAA,KAAI,KAY,KE,KI,KII,KO,KOO,KW,KWA,KWAA,",
    "KWAY,KWE,KWI,KWII,KWO,KWOO,L,LA,LAA,LAAI,LAY,LE,LH,LHA,LHAA,LHI,LHII,LHO,LHOO,LI,LII,LO,LOO,",
    "LWA,LWAA,LWE,LWI,LWII,LWO,LWOO,M,MA,MAA,MAAI,MAY,ME,MEDIAL L,MEDIAL R,MH,MI,MII,MO,MOO,",
    "MOOSE-CREE SK,MWA,MWAA,MWE,MWI,MWII,MWO,MWOO,N,N-CREE THE,N-CREE THI,N-CREE THII,NA,NAA,NAAI,",
    "NAY,NE,NG,NGA,NGAA,NGAAI,NGAI,NGI,NGII,NGO,NGOO,NH,NI,NII,NNG,NNGA,NNGAA,NNGI,NNGII,NNGO,",
    "NNGOO,NO,NOO,NOY,NUNAVUT H,NWA,NWAA,NWE,NWI,NWII,NWO,NWOO,O,ON,OO,OY,P,PA,PAA,PAAI,PAY,PE,PI,",
    "PII,PO,POO,POY,PWA,PWAA,PWE,PWI,PWII,PWO,PWOO,PWOY,Q,QA,QAA,QAAI,QAI,QI,QII,QO,QOO,R,",
    "R-CREE RE,R-CREE RWE,RA,RAA,RAAI,RAY,RE,RI,RII,RO,ROO,RWA,RWAA,RWEE,RWI,RWII,RWO,RWOO,S,SA,",
    "SAA,SAAI,SAY,SE,SH,SHA,SHAA,SHAY,SHE,SHI,SHII,SHO,SHOO,SHOY,SHWA,SHWAA,SHWE,SHWI,SHWII,SHWO,",
    "SHWOO,SHWOY,SI,SII,SO,SOO,SOY,SW,SWA,SWAA,SWE,SWI,SWII,SWO,SWOO,T,TA,TAA,TAAI,TAY,TE,TH,THA,",
    "THAA,THE,THI,THII,THO,THOO,THWA,THWAA,THWE,TI,TII,TLHA,TLHE,TLHI,TLHO,TLHOO,TLHWE,TO,TOO,TTA,",
    "TTE,TTH,TTHA,TTHAA,TTHE,TTHI,TTHO,TTHOO,TTHWE,TTI,TTO,TWA,TWAA,TWE,TWI,TWII,|,|O,TYA,TYE,TYI,",
    "TYO,WA,WAA,WAY,WE,WESTERN W,WI,WII,WO,WOO,Y,YA,YAA,YAAI,YAY,YE,YI,YII,YO,YOO,YOY,YWA,YWAA,",
    "YWE,YWI,YWII,YWO,YWOO;CANADIAN SYLLABICS ]FOOT :A,E,I,KA,KE,KI,KO,NA,NE,NI,NO,O,S,W,WA,WE,WI,",
    "WO;CANADIAN SYLLABICS CARRIER :CHA,CHE,CHEE,CHI,CHO,CHU,DEE,DENE GEE,DENTAL S,DI,DLA,DLE,",
    "DLEE,DLI,DLO,DLU,DZA,DZE,DZEE,DZI,DZO,DZU,EE,GA,GAA,GE,GEE,GHA,GHE,GHEE,GHI,GHO,GHU,GI,GO,GU,",
    "GWA,GWU,H,HEE,HI,HWA,HWE,HWEE,HWI,HWO,HWU,I,p Z,JA,JE,JEE,JI,JJA,JJE,JJEE,JJI,JJO,JJU,JO,JU,",
    "JWA,KHA,KHE,KHEE,KHI,KHO,KHU,KK,KKA,KKE,KKEE,KKI,KKO,KKU,LA,LE,LEE,LHA,LHE,LHEE,LHI,LHO,LHU,",
    "LI,LO,LU,MA,ME,MEE,MI,MO,MU,NA,NE,NEE,NG,NI,NO,NU,P,PA,PE,PEE,PI,PO,PU,RA,RE,REE,RI,RO,RU,SA,",
    "SE,SEE,SH,SHA,SHE,SHEE,SHI,SHO,SHU,SI,SO,SU,THA,THE,THEE,THI,THO,THU,TLA,TLE,TLEE,TLHA,TLHE,",
    "TLHEE,TLHI,TLHO,TLHU,TLI,TLO,TLU,TSA,TSE,TSEE,TSI,TSO,TSU,TTA,TTE,TTEE,TTI,TTO,TTSA,TTSE,",
    "TTSEE,TTSI,TTSO,TTSU,TTU,WA,WE,WEE,WI,WO,WU,YA,YE,YEE,YI,YO,YU,Z,ZA,ZE,ZEE,ZI,ZO,ZU;",
    "CANADIAN SYLLABICS o :ACUTE,BOTTOM HALF RING,l ACUTE,l SHORT u qS,DOWN TACK,GRAVE,*%,PLUS,",
    "RAISED %,i HALF RING,RING,SHORT v q,m RING,TOP HALF RING;CANADIAN SYLLABICS NASKAPI :CWAA,",
    "KWAA,MWAA,NWAA,S-W,SCWA,SKW,SKWA,SPWA,STWA,SWAA,TWAA,WAA,WOO,YWAA;",
    "CANADIAN SYLLABICS NUNAVIK :H,HA,HAA,HE,HI,HII,HO,HOO;CANADIAN SYLLABICS OJIBWAY :C,K,M,N,",
    "NWI,NWII,NWO,NWOO,P,S,SH,T;CANADIAN SYLLABICS SAYISI :HA,HE,HI,HO,HOO,JI,JU,JUU,M,SHA,SHE,",
    "SHI,SHO,SHOO,SHWE,TH,YI;CANADIAN SYLLABICS SOUTH-SLAVEY :KAH,KEH,KIH,KOH;",
    "CANADIAN SYLLABICS TH-CREE :TH,THA,THAA,THE,THI,THII,THO,THOO;",
    "CANADIAN SYLLABICS WEST-CREE :CWA,CWAA,CWE,CWI,CWII,CWO,CWOO,FWAA,KWA,KWAA,KWE,KWI,KWII,KWO,",
    "KWOO,L,LA,LAA,LE,LO,LOO,LWA,LWAA,LWE,LWI,LWII,LWO,LWOO,M,MWA,MWAA,MWE,MWI,MWII,MWO,MWOO,NWA,",
    "NWAA,NWE,P,PWA,PWAA,PWE,PWI,PWII,PWO,PWOO,R,RA,RE,RI,RO,RWAA,SHWA,SHWAA,SHWE,SHWI,SHWII,SHWO,",
    "SHWOO,SWA,SWAA,SWE,SWI,SWII,SWO,SWOO,THWAA,TWA,TWAA,TWE,TWI,TWII,|,|O,WA,WAA,WE,WI,WII,WO,",
    "WOO,Y,YWA,YWAA,YWE,YWI,YWII,YWO,YWOO;CANADIAN SYLLABICS WOODS-CREE :o TH,TH,THA,THE,THI,THO,",
    "THWA,THWAA,THWEE,THWI,THWII,THWO,THWOO;CANADIAN SYLLABICS Y-CREE :COO,KOO,LOO,MOO,NOO,OO,POO,",
    "PWAA,SOO,TOO,W,YOO;CHAM CONSONANTd :o H,o M,o NG,LA,RA,WA,YA;CHAM.:&,FIVE,_,NINE,!,@,SIX,r,|,",
    "ZERO;CHAMb:A,AI,BA,BBA,BHA,CHA,CHHA,DA,DDA,DHA,E,GA,GHA,HA,I,JA,JHA,KA,KHA,LA,MA,MUE,NA,NGA,",
    "NGUE,NHA,NHJA,NHUE,NUE,O,PA,PHA,PPA,RA,SA,SSA,TA,THA,U,VA,YA;CHAMbo :CH,G,K,L,N,NG,P,R,SS,T,",
    "Y;CHAM PUNCTUATION :DANDA,l DANDA,SPIRAL,TRIPLE DANDA;CHAM VOWELd :AA,AI,AU,EI,I,II,O,OE,U,",
    "UE;CHEROKEEb:A,DA,DE,DI,DLA,DO,DU,DV,E,GA,GE,GI,GO,GU,GV,HA,HE,HI,HNA,HO,HU,HV,I,KA,LA,LE,LI,",
    "LO,LU,LV,MA,ME,MI,MO,MU,MV,NA,NAH,NE,NI,NO,NU,NV,O,QUA,QUE,QUI,QUO,QUU,QUV,S,SA,SE,SI,SO,SU,",
    "SV,TA,TE,TI,TLA,TLE,TLI,TLO,TLU,TLV,TSA,TSE,TSI,TSO,TSU,TSV,U,V,WA,WE,WI,WO,WU,WV,YA,YE,YI,",
    "YO,YU,YV;CHEROKEE mb:A,DA,DE,DI,DLA,DO,DU,DV,E,GA,GE,GI,GO,GU,GV,HA,HE,HI,HNA,HO,HU,HV,I,KA,",
    "LA,LE,LI,LO,LU,LV,MA,ME,MI,MO,MU,MV,NA,NAH,NE,NI,NO,NU,NV,O,QUA,QUE,QUI,QUO,QUU,QUV,S,SA,SE,",
    "SI,SO,SU,SV,TA,TE,TI,TLA,TLE,TLI,TLO,TLU,TLV,TSA,TSE,TSI,TSO,TSU,TSV,U,V,WA,WE,WI,WO,WU,WV,",
    "YA,YE,YI,YO,YU,YV;COMBINING :DEVANAGARId AVAGRAHA,DIAERESIS-RING,lD CIRCUMFLEX ACCENT,DOWN$e,",
    "INFINITY,INVERTED l ARCHf,LIGHT CENTRALIZATION qj,NUMBERdf,OPENnj,PLUSdf,=zSf,",
    "STRONG CENTRALIZATION qj,TRIPLE ACUTE ACCENT,TRIPLE %,WIGGLY LINEj,X-Xj;",
    "COMBINING DEVANAGARI.:&,FIVE,_,NINE,!,@,SIX,r,|,ZERO;COMBINING DEVANAGARIb:A,KA,NA,PA,RA,U,",
    "VI;COMBINING l :OPENnj,PARENTHESESf,PLUSdf,PLUSdj;",
    "COMBINING KATAKANA-HIRAGANA :SEMI-VOICED SOUNDn,VOICED SOUNDn;COMBINING LATIN mb:INSULAR G,",
    "INSULAR R,INSULAR T,TURNED Wj,Wj;COMBINING s PARENTHESIS :ABOVE s,BELOW s;",
    "COMBINING PARENTHESES :ABOVE,BELOW,OVERLAY;COMBINING i PARENTHESIS :ABOVE i,BELOW i;",
    "DEVANAGARI :ABBREVIATIONd,ACUTE ACCENT,CARET,DANDA,l DANDA,GAP FILLER,GRAVE ACCENT,HEADq,",
    "JAIN OM,OM,STRESSd ANUDATTA,STRESSd UDATTA;DEVANAGARI.:&,FIVE,_,NINE,!,@,SIX,r,|,ZERO;",
    "DEVANAGARIb:A,AA,AI,AU,AW,AY,BA,BBA,BHA,CA,CANDRA A,CANDRA E,CANDRA O,CHA,DA,DDA,DDDA,DDDHA,",
    "DDHA,DHA,E,FA,GA,GGA,GHA,GHHA,GLOTTAL STOP,HA,HEAVY YA,I,II,JA,JHA,JJA,KA,KHA,KHHA,LA,LLA,",
    "LLLA,MA,MARWARI DDA,NA,NGA,NNA,NNNA,NYA,O,OE,OOE,PA,PHA,QA,RA,RHA,RRA,SA,SHA,SHORT A,SHORT E,",
    "SHORT O,SSA,TA,THA,TTA,TTHA,U,UE,UU,UUE,VA,YA,YYA,ZA,ZHA;DEVANAGARIbVOCALIC :L,LL,R,RR;",
    "DEVANAGARId :ANUSVARA,AVAGRAHA,CANDRABINDU,l CANDRABINDU VIRAMA,HIGH SPACING %,",
    "INVERTED CANDRABINDU,NUKTA,PUSHPIKA,SIDDHAM,SPACING CANDRABINDU,VIRAMA,VISARGA;",
    "DEVANAGARId CANDRABINDU :AVAGRAHA,r,|,VIRAMA;DEVANAGARI VOWELd :AA,AI,AU,AW,AY,CANDRA E,",
    "CANDRA LONG E,CANDRA O,E,I,II,O,OE,OOE,PRISHTHAMATRA E,SHORT E,SHORT O,U,UE,UU,UUE,VOCALIC L,",
    "VOCALIC LL,VOCALIC R,VOCALIC RR;ETHIOPIC :COLON,COMBINING VOWEL LENGTHn,COMMA,FULL STOP,",
    "PARAGRAPH SEPARATOR,PREFACE COLON,QUESTIONn,SECTIONn,SEMICOLON,WORDSPACE;",
    "ETHIOPIC COMBINING GEMINATION :AND VOWEL LENGTHn,MARK;ETHIOPIC.:&,FIVE,_,NINE,!,@,SIX,r,|;",
    "ETHIOPIC NUMBER :&Y,FIFTY,FORTY,HUNDRED,NINETY,@TY,SIXTY,TEN,TENt,THIRTY,TWENTY;",
    "ETHIOPIC SYLLABLE :BA,BAA,BBA,BBAA,BBE,BBEE,BBI,BBO,BBU,BE,BEE,BI,BO,BU,BWA,BWE,BWEE,BWI,CA,",
    "CAA,CCHHA,CCHHAA,CCHHE,CCHHEE,CCHHI,CCHHO,CCHHU,CE,CEE,CHA,CHAA,CHE,CHEE,CHI,CHO,CHU,CHWA,CI,",
    "CO,CU,CWA,DA,DAA,DDA,DDAA,DDE,DDEE,DDHAA,DDHE,DDHEE,DDHI,DDHO,DDHU,DDI,DDO,DDU,DDWA,DE,DEE,",
    "DI,DO,DU,DWA,DZAA,DZE,DZEE,DZI,DZO,DZU,FA,FAA,FE,FEE,FI,FO,FU,FWA,FWE,FWEE,FWI,FYA,GA,GAA,GE,",
    "GEE,GGA,GGAA,GGE,GGEE,GGI,GGO,GGU,GGWAA,GI,GO,GOA,GU,GWA,GWAA,GWE,GWEE,GWI,HA,HAA,HE,HEE,HHA,",
    "HHAA,HHE,HHEE,HHI,HHO,HHU,HHWA,HI,HO,HOA,HU,JA,JAA,JE,JEE,JI,JO,JU,JWA,KA,KAA,KE,KEE,KI,KO,",
    "KOA,KU,KWA,KWAA,KWE,KWEE,KWI,KXA,KXAA,KXE,KXEE,KXI,KXO,KXU,KXWA,KXWAA,KXWE,KXWEE,KXWI,LA,LAA,",
    "LE,LEE,LI,LO,LU,LWA,MA,MAA,ME,MEE,MI,MO,MU,MWA,MWE,MWEE,MWI,MYA,NA,NAA,NE,NEE,NI,NO,NU,NWA,",
    "NYA,NYAA,NYE,NYEE,NYI,NYO,NYU,NYWA,PA,PAA,PE,PEE,PHA,PHAA,PHE,PHEE,PHI,PHO,PHU,PHWA,PI,PO,PU,",
    "PWA,PWE,PWEE,PWI,QA,QAA,QE,QEE,QHA,QHAA,QHE,QHEE,QHI,QHO,QHU,QHWA,QHWAA,QHWE,QHWEE,QHWI,QI,",
    "QO,QOA,QU,QWA,QWAA,QWE,QWEE,QWI,RA,RAA,RE,REE,RI,RO,RU,RWA,RYA,SA,SAA,SE,SEE,SHA,SHAA,SHE,",
    "SHEE,SHI,SHO,SHU,SHWA,SI,SO,SU,SWA,SZA,SZAA,SZE,SZEE,SZI,SZO,SZU,SZWA,TA,TAA,TE,TEE,THA,THAA,",
    "THE,THEE,THI,THO,THU,THWA,TI,TO,TSA,TSAA,TSE,TSEE,TSI,TSO,TSU,TSWA,TTHAA,TTHE,TTHEE,TTHI,",
    "TTHO,TTHU,TU,TWA,TZA,TZAA,TZE,TZEE,TZI,TZO,TZOA,TZU,VA,VAA,VE,VEE,VI,VO,VU,VWA,WA,WAA,WE,WEE,",
    "WI,WO,WOA,WU,XA,XAA,XE,XEE,XI,XO,XOA,XU,XWA,XWAA,XWE,XWEE,XWI,YA,YAA,YE,YEE,YI,YO,YOA,YU,ZA,",
    "ZAA,ZE,ZEE,ZHA,ZHAA,ZHE,ZHEE,ZHI,ZHO,ZHU,ZHWA,ZI,ZO,ZU,ZWA;ETHIOPIC SYLLABLE GLOTTAL :A,AA,E,",
    "EE,I,O,U,WA;ETHIOPIC SYLLABLE PHARYNGEAL :A,AA,E,EE,I,O,U;ETHIOPIC SYLLABLE SEBATBEIT :BWA,",
    "FWA,MWA,PWA;ETHIOPIC TONALn :CHIRET,DERET,DERET-HIDET,DIFAT,HIDET,KENAT,KURT,RIKRIK,",
    "SHORT RIKRIK,YIZET;GUJARATI :ABBREVIATIONd,OM,RUPEEd;GUJARATI.:&,FIVE,_,NINE,!,@,SIX,r,|,",
    "ZERO;GUJARATIb:A,AA,AI,AU,BA,BHA,CA,CHA,DA,DDA,DDHA,DHA,E,GA,GHA,HA,I,II,JA,JHA,KA,KHA,LA,",
    "LLA,MA,NA,NGA,NNA,NYA,O,PA,PHA,RA,SA,SHA,SSA,TA,THA,TTA,TTHA,U,UU,VA,YA,ZHA;",
    "GUJARATIbVOCALIC :L,LL,R,RR;GUJARATId :ANUSVARA,AVAGRAHA,CANDRABINDU,# NUKTAf,MADDAH,NUKTA,",
    "SHADDA,SUKUN,r-% NUKTAf,|-# NUKTAf,VIRAMA,VISARGA;GUJARATI VOWEL CANDRA :E,O;",
    "GUJARATI VOWELd :AA,AI,AU,CANDRA E,CANDRA O,E,I,II,O,U,UU;GUJARATI VOWELd VOCALIC :L,LL,R,RR;",
    "GURMUKHI :ABBREVIATIONd,ADDAK,EK ONKAR,IRI,TIPPI,URA;GURMUKHI.:&,FIVE,_,NINE,!,@,SIX,r,|,",
    "ZERO;GURMUKHIb:A,AA,AI,AU,BA,BHA,CA,CHA,DA,DDA,DDHA,DHA,EE,FA,GA,GHA,GHHA,HA,I,II,JA,JHA,KA,",
    "KHA,KHHA,LA,LLA,MA,NA,NGA,NNA,NYA,OO,PA,PHA,RA,RRA,SA,SHA,TA,THA,TTA,TTHA,U,UU,VA,YA,ZA;",
    "GURMUKHId :ADAK BINDI,BINDI,NUKTA,UDAAT,VIRAMA,VISARGA,YAKASH;GURMUKHI VOWELd :AA,AI,AU,EE,I,",
    "II,OO,U,UU;HANGUL CHOSEONG :CEONGCHIEUMCHIEUCH,CEONGCHIEUMCIEUC,CEONGCHIEUMSIOS,",
    "CEONGCHIEUMSSANGCIEUC,CEONGCHIEUMSSANGSIOS,CHIEUCH,CHIEUCH-HIEUH,CHIEUCH-KHIEUKH,",
    "CHITUEUMCHIEUCH,CHITUEUMCIEUC,CHITUEUMSIOS,CHITUEUMSSANGCIEUC,CHITUEUMSSANGSIOS,CIEUC,",
    "CIEUC-IEUNG,FILLER,HIEUH,HIEUH-SIOS,IEUNG,IEUNG-CHIEUCH,IEUNG-CIEUC,IEUNG-HIEUH,IEUNG-KIYEOK,",
    "IEUNG-MIEUM,IEUNG-PANSIOS,IEUNG-PHIEUPH,IEUNG-PIEUP,IEUNG-RIEUL,IEUNG-SIOS,IEUNG-THIEUTH,",
    "IEUNG-TIKEUT,KAPYEOUNMIEUM,KAPYEOUNPHIEUPH,KAPYEOUNPIEUP,KAPYEOUNRIEUL,KAPYEOUNSSANGPIEUP,",
    "KHIEUKH,KIYEOK,KIYEOK-TIKEUT,MIEUM,MIEUM-KIYEOK,MIEUM-PIEUP,MIEUM-SIOS,MIEUM-TIKEUT,NIEUN,",
    "NIEUN-CIEUC,NIEUN-HIEUH,NIEUN-KIYEOK,NIEUN-PIEUP,NIEUN-SIOS,NIEUN-TIKEUT,PANSIOS,PHIEUPH,",
    "PHIEUPH-HIEUH,PHIEUPH-PIEUP,PIEUP,PIEUP-CHIEUCH,PIEUP-CIEUC,PIEUP-HIEUH,PIEUP-KHIEUKH,",
    "PIEUP-KIYEOK,PIEUP-NIEUN,PIEUP-PHIEUPH,PIEUP-SIOS,PIEUP-SIOS-CIEUC,PIEUP-SIOS-KIYEOK,",
    "PIEUP-SIOS-PIEUP,PIEUP-SIOS-THIEUTH,PIEUP-SIOS-TIKEUT,PIEUP-SSANGSIOS,PIEUP-THIEUTH,",
    "PIEUP-TIKEUT,RIEUL,RIEUL-CIEUC,RIEUL-HIEUH,RIEUL-KAPYEOUNPIEUP,RIEUL-KHIEUKH,RIEUL-KIYEOK,",
    "RIEUL-MIEUM,RIEUL-NIEUN,RIEUL-PIEUP,RIEUL-SIOS,RIEUL-SSANGKIYEOK,RIEUL-SSANGPIEUP,",
    "RIEUL-SSANGTIKEUT,RIEUL-TIKEUT,SIOS,SIOS-CHIEUCH,SIOS-CIEUC,SIOS-HIEUH,SIOS-IEUNG,",
    "SIOS-KHIEUKH,SIOS-KIYEOK,SIOS-MIEUM,SIOS-NIEUN,SIOS-PHIEUPH,SIOS-PIEUP,SIOS-PIEUP-KIYEOK,",
    "SIOS-RIEUL,SIOS-SSANGSIOS,SIOS-THIEUTH,SIOS-TIKEUT,SSANGCIEUC,SSANGCIEUC-HIEUH,SSANGHIEUH,",
    "SSANGIEUNG,SSANGKIYEOK,SSANGNIEUN,SSANGPIEUP,SSANGRIEUL,SSANGSIOS,SSANGSIOS-PIEUP,",
    "SSANGTHIEUTH,SSANGTIKEUT,SSANGYEORINHIEUH,THIEUTH,TIKEUT,TIKEUT-CIEUC,TIKEUT-KIYEOK,",
    "TIKEUT-MIEUM,TIKEUT-PIEUP,TIKEUT-RIEUL,TIKEUT-SIOS,YEORINHIEUH,YESIEUNG;",
    "HANGUL JONGSEONG :CHIEUCH,CIEUC,CIEUC-PIEUP,CIEUC-SSANGPIEUP,HIEUH,HIEUH-MIEUM,HIEUH-NIEUN,",
    "HIEUH-PIEUP,HIEUH-RIEUL,IEUNG,IEUNG-KHIEUKH,IEUNG-KIYEOK,IEUNG-SSANGKIYEOK,KAPYEOUNMIEUM,",
    "KAPYEOUNPHIEUPH,KAPYEOUNPIEUP,KAPYEOUNRIEUL,KHIEUKH,KIYEOK,KIYEOK-CHIEUCH,KIYEOK-HIEUH,",
    "KIYEOK-KHIEUKH,KIYEOK-NIEUN,KIYEOK-PIEUP,KIYEOK-RIEUL,KIYEOK-SIOS,KIYEOK-SIOS-KIYEOK,MIEUM,",
    "MIEUM-CHIEUCH,MIEUM-CIEUC,MIEUM-HIEUH,MIEUM-KIYEOK,MIEUM-NIEUN,MIEUM-PANSIOS,MIEUM-PIEUP,",
    "MIEUM-PIEUP-SIOS,MIEUM-RIEUL,MIEUM-SIOS,MIEUM-SSANGNIEUN,MIEUM-SSANGSIOS,NIEUN,NIEUN-CHIEUCH,",
    "NIEUN-CIEUC,NIEUN-HIEUH,NIEUN-KIYEOK,NIEUN-PANSIOS,NIEUN-RIEUL,NIEUN-SIOS,NIEUN-THIEUTH,",
    "NIEUN-TIKEUT,PANSIOS,PANSIOS-KAPYEOUNPIEUP,PANSIOS-PIEUP,PHIEUPH,PHIEUPH-PIEUP,PHIEUPH-SIOS,",
    "PHIEUPH-THIEUTH,PIEUP,PIEUP-CHIEUCH,PIEUP-CIEUC,PIEUP-HIEUH,PIEUP-MIEUM,PIEUP-PHIEUPH,",
    "PIEUP-RIEUL,PIEUP-RIEUL-PHIEUPH,PIEUP-SIOS,PIEUP-SIOS-TIKEUT,PIEUP-TIKEUT,RIEUL,RIEUL-HIEUH,",
    "RIEUL-KAPYEOUNPIEUP,RIEUL-KHIEUKH,RIEUL-KIYEOK,RIEUL-KIYEOK-HIEUH,RIEUL-KIYEOK-SIOS,",
    "RIEUL-MIEUM,RIEUL-MIEUM-HIEUH,RIEUL-MIEUM-KIYEOK,RIEUL-MIEUM-SIOS,RIEUL-NIEUN,RIEUL-PANSIOS,",
    "RIEUL-PHIEUPH,RIEUL-PIEUP,RIEUL-PIEUP-HIEUH,RIEUL-PIEUP-PHIEUPH,RIEUL-PIEUP-SIOS,",
    "RIEUL-PIEUP-TIKEUT,RIEUL-SIOS,RIEUL-SSANGKIYEOK,RIEUL-SSANGSIOS,RIEUL-THIEUTH,RIEUL-TIKEUT,",
    "RIEUL-TIKEUT-HIEUH,RIEUL-YEORINHIEUH,RIEUL-YEORINHIEUH-HIEUH,RIEUL-YESIEUNG,SIOS,",
    "SIOS-CHIEUCH,SIOS-CIEUC,SIOS-HIEUH,SIOS-KAPYEOUNPIEUP,SIOS-KIYEOK,SIOS-MIEUM,SIOS-PANSIOS,",
    "SIOS-PIEUP,SIOS-RIEUL,SIOS-THIEUTH,SIOS-TIKEUT,SSANGCIEUC,SSANGIEUNG,SSANGKIYEOK,SSANGMIEUM,",
    "SSANGNIEUN,SSANGPIEUP,SSANGRIEUL,SSANGRIEUL-KHIEUKH,SSANGSIOS,SSANGSIOS-KIYEOK,",
    "SSANGSIOS-TIKEUT,SSANGTIKEUT,SSANGTIKEUT-PIEUP,THIEUTH,TIKEUT,TIKEUT-CHIEUCH,TIKEUT-CIEUC,",
    "TIKEUT-KIYEOK,TIKEUT-PIEUP,TIKEUT-RIEUL,TIKEUT-SIOS,TIKEUT-SIOS-KIYEOK,TIKEUT-THIEUTH,",
    "YEORINHIEUH,YESIEUNG,YESIEUNG-HIEUH,YESIEUNG-MIEUM,YESIEUNG-PANSIOS,YESIEUNG-SIOS;",
    "HANGUL JUNGSEONG :A,A-EU,A-O,A-U,AE,ARAEA,ARAEA-A,ARAEA-E,ARAEA-EO,ARAEA-I,ARAEA-U,E,EO,",
    "EO-EU,EO-O,EO-U,EU,EU-A,EU-E,EU-EO,EU-EU,EU-O,EU-U,FILLER,I,I-A,I-ARAEA,I-EU,I-I,I-O,I-O-I,",
    "I-U,I-YA,I-YA-O,I-YAE,I-YE,I-YEO,I-YO,I-YU,O,O-E,O-EO,O-O,O-O-I,O-U,O-YA,O-YAE,O-YE,O-YEO,OE,",
    "SSANGARAEA,U,U-A,U-AE,U-EO-EU,U-I-I,U-U,U-YE,U-YEO,WA,WAE,WE,WEO,WI,YA,YA-O,YA-U,YA-YO,YAE,",
    "YE,YEO,YEO-O,YEO-U,YEO-YA,YI,YI-U,YO,YO-A,YO-AE,YO-EO,YO-I,YO-O,YO-YA,YO-YAE,YO-YEO,YU,YU-A,",
    "YU-AE,YU-E,YU-EO,YU-I,YU-O,YU-U,YU-YE,YU-YEO;HANGULb:A,AE,ARAEA,ARAEAE,CHIEUCH,CIEUC,E,EO,EU,",
    "HIEUH,I,IEUNG,KAPYEOUNMIEUM,KAPYEOUNPHIEUPH,KAPYEOUNPIEUP,KAPYEOUNSSANGPIEUP,KHIEUKH,KIYEOK,",
    "KIYEOK-SIOS,MIEUM,MIEUM-PANSIOS,MIEUM-PIEUP,MIEUM-SIOS,NIEUN,NIEUN-CIEUC,NIEUN-HIEUH,",
    "NIEUN-PANSIOS,NIEUN-SIOS,NIEUN-TIKEUT,O,OE,PANSIOS,PHIEUPH,PIEUP,PIEUP-CIEUC,PIEUP-KIYEOK,",
    "PIEUP-SIOS,PIEUP-SIOS-KIYEOK,PIEUP-SIOS-TIKEUT,PIEUP-THIEUTH,PIEUP-TIKEUT,RIEUL,RIEUL-HIEUH,",
    "RIEUL-KIYEOK,RIEUL-KIYEOK-SIOS,RIEUL-MIEUM,RIEUL-PANSIOS,RIEUL-PHIEUPH,RIEUL-PIEUP,",
    "RIEUL-PIEUP-SIOS,RIEUL-SIOS,RIEUL-THIEUTH,RIEUL-TIKEUT,RIEUL-YEORINHIEUH,SIOS,SIOS-CIEUC,",
    "SIOS-KIYEOK,SIOS-NIEUN,SIOS-PIEUP,SIOS-TIKEUT,SSANGCIEUC,SSANGHIEUH,SSANGIEUNG,SSANGKIYEOK,",
    "SSANGNIEUN,SSANGPIEUP,SSANGSIOS,SSANGTIKEUT,THIEUTH,TIKEUT,U,WA,WAE,WE,WEO,WI,YA,YAE,YE,YEO,",
    "YEORINHIEUH,YESIEUNG,YESIEUNG-PANSIOS,YESIEUNG-SIOS,YI,YO,YO-I,YO-YA,YO-YAE,YU,YU-I,YU-YE,",
    "YU-YEO;HANUNOOb:A,BA,DA,GA,HA,I,KA,LA,MA,NA,NGA,PA,RA,SA,TA,U,WA,YA;HANUNOO VOWELd :I,U;",
    "HIRAGANA :DIGRAPH YORI,ITERATIONn,VOICED ITERATIONn;HIRAGANAb:A,BA,BE,BI,BO,BU,DA,DE,DI,DO,",
    "DU,E,GA,GE,GI,GO,GU,HA,HE,HI,HO,HU,I,KA,KE,KI,KO,KU,MA,ME,MI,MO,MU,N,NA,NE,NI,NO,NU,O,PA,PE,",
    "PI,PO,PU,RA,RE,RI,RO,RU,SA,SE,SI,SO,SU,TA,TE,TI,TO,TU,U,VU,WA,WE,WI,WO,YA,YO,YU,ZA,ZE,ZI,ZO,",
    "ZU;HIRAGANAbm :A,E,I,KA,KE,O,TU,U,WA,YA,YO,YU;IDEOGRAPHIC ANNOTATION :BOTTOMn,EARTHn,FIRSTn,",
    "_n,_THn,HEAVENn,LINKINGn,MANn,MIDDLEn,!n,REVERSEn,SECONDn,THIRDn,rn,TOPn,|n;",
    "JAVANESE :s RERENGGAN,PANGKON,PANGRANGKEP,i RERENGGAN,TURNED PADA PISELEH;",
    "JAVANESE CONSONANTd :CAKRA,KERET,PENGKAL;JAVANESE.:&,FIVE,_,NINE,!,@,SIX,r,|,ZERO;",
    "JAVANESEb:A,AI,BA,BA MURDA,CA,CA MURDA,DA,DA MAHAPRANA,DDA,DDA MAHAPRANA,E,GA,GA MURDA,HA,I,",
    "I KAWI,II,JA,JA MAHAPRANA,KA,KA MURDA,KA SASAK,LA,MA,NA,NA MURDA,NGA,NGA LELET,",
    "NGA LELET RASWADI,NYA,NYA MURDA,O,PA,PA CEREK,PA MURDA,RA,RA AGUNG,SA,SA MAHAPRANA,SA MURDA,",
    "TA,TA MURDA,TTA,TTA MAHAPRANA,U,WA,YA;JAVANESE PADA :ADEG,ADEG ADEG,ANDAP,ISEN-ISEN,LINGSA,",
    "LUHUR,LUNGSI,MADYA,PANGKAT,PISELEH,TIRTA TUMETES,WINDU;JAVANESEd :CECAK,CECAK TELU,LAYAR,",
    "PANYANGGA,WIGNYAN;JAVANESE VOWELd :DIRGA MURE,PEPET,SUKU,SUKU MENDUT,TALING,TARUNG,TOLONG,",
    "WULU,WULU MELIK;KANNADA :AI LENGTHn,LENGTHn;KANNADA.:&,FIVE,_,NINE,!,@,SIX,r,|,ZERO;",
    "KANNADAb:A,AA,AI,AU,BA,BHA,CA,CHA,DA,DDA,DDHA,DHA,E,EE,FA,GA,GHA,HA,I,II,JA,JHA,KA,KHA,LA,",
    "LLA,MA,NA,NAKAARA POLLU,NGA,NNA,NYA,O,OO,PA,PHA,RA,RRA,SA,SHA,SSA,TA,THA,TTA,TTHA,U,UU,VA,YA;",
    "KANNADAbVOCALIC :L,LL,R,RR;KANNADAd :ANUSVARA,AVAGRAHA,CANDRABINDU,JIHVAMULIYA,NUKTA,SIDDHAM,",
    "SPACING CANDRABINDU,UPADHMANIYA,VIRAMA,VISARGA;KANNADA VOWELd :AA,AI,AU,E,EE,I,II,O,OO,U,UU;",
    "KANNADA VOWELd VOCALIC :L,LL,R,RR;KATAKANA :DIGRAPH KOTO,ITERATIONn,*%,VOICED ITERATIONn;",
    "KATAKANAb:A,BA,BE,BI,BO,BU,DA,DE,DI,DO,DU,E,GA,GE,GI,GO,GU,HA,HE,HI,HO,HU,I,KA,KE,KI,KO,KU,",
    "MA,ME,MI,MO,MU,N,NA,NE,NI,NO,NU,O,PA,PE,PI,PO,PU,RA,RE,RI,RO,RU,SA,SE,SI,SO,SU,TA,TE,TI,TO,",
    "TU,U,VA,VE,VI,VO,VU,WA,WE,WI,WO,YA,YO,YU,ZA,ZE,ZI,ZO,ZU;KATAKANAbm :A,E,I,KA,KE,O,TU,U,WA,YA,",
    "YO,YU;KATAKANA-HIRAGANA :l HYPHEN,PROLONGED SOUNDn,SEMI-VOICED SOUNDn,VOICED SOUNDn;",
    "KAYAH LI.:&,FIVE,_,NINE,!,@,SIX,r,|,ZERO;KAYAH LIb:A,BA,CA,DA,GA,HA,HTA,I,KA,KHA,LA,MA,NA,",
    "NGA,NYA,OE,OO,PA,PHA,RA,SA,SHA,TA,THA,VA,WA,YA,ZA;KAYAH LId :CWI,SHYA;KAYAH LI T! :CALYA,",
    "CALYA PLOPHU,PLOPHU;KAYAH LI VOWEL :E,EE,O,U,UE;KHMER.:&,FIVE,_,NINE,!,@,SIX,r,|,ZERO;",
    "KHMER INDEPENDENT VOWEL :LY,LYY,QAA,QAI,QAQ,QAU,QE,QI,QII,QOO TYPE !,QOO TYPE |,QU,QUK,QUU,",
    "QUUV,RY,RYY;KHMERb:BA,CA,CHA,CHO,CO,DA,DO,HA,KA,KHA,KHO,KO,LA,LO,MO,NGO,NNO,NO,NYO,PHA,PHO,",
    "PO,QA,RO,SA,SHA,SSO,TA,THA,THO,TO,TTHA,TTHO,VO,YO;KHMERd :AHSDA,ATTHACAN,AVAKRAHASANYA,",
    "BANTOC,BARIYOOSAN,BATHAMASAT,BEYYAL,CAMNUC PII KUUH,COENG,KAKABAT,KHAN,KOOMUUT,LEK TOO,",
    "MUUSIKATOAN,NIKAHIT,PHNAEK MUAN,REAHMUK,ROBAT,SAMYOK SANNYA,TOANDAKHIAT,TRIISAP,VIRIAM,",
    "YUUKALEAPINTU;KHMERk :BEI KOET,BEI ROC,BUON KOET,BUON ROC,DAP KOET,DAP ROC,DAP-BEI KOET,",
    "DAP-BEI ROC,DAP-BUON KOET,DAP-BUON ROC,DAP-MUOY KOET,DAP-MUOY ROC,DAP-PII KOET,DAP-PII ROC,",
    "DAP-PRAM KOET,DAP-PRAM ROC,MUOY KOET,MUOY ROC,PATHAMASAT,PII KOET,PII ROC,PRAM KOET,PRAM ROC,",
    "PRAM-BEI KOET,PRAM-BEI ROC,PRAM-BUON KOET,PRAM-BUON ROC,PRAM-MUOY KOET,PRAM-MUOY ROC,",
    "PRAM-PII KOET,PRAM-PII ROC,TUTEYASAT;KHMERk LEK ATTAK :BEI,BUON,MUOY,PII,PRAM,PRAM-BEI,",
    "PRAM-BUON,PRAM-MUOY,PRAM-PII,SON;KHMER VOWEL INHERENT :AA,AQ;KHMER VOWELd :AA,AE,AI,AU,E,I,",
    "IE,II,OE,OO,U,UA,UU,Y,YA,YY;LAO :CANCELLATIONn,ELLIPSIS,HO MO,HO NO,KO LA,NIGGAHITA,",
    "SIGN PALI VIRAMA;LAO.:&,FIVE,_,NINE,!,@,SIX,r,|,ZERO;LAOb:BO,CO,DO,FO SUNG,FO TAM,HO SUNG,",
    "HO TAM,KHMU GO,KHMU NYO,KHO SUNG,KHO TAM,KO,LO LING,LO LOOT,MO,NGO,NO,NYO,O,PHO SUNG,PHO TAM,",
    "PO,SANSKRIT SHA,SANSKRIT SSA,SO SUNG,SO TAM,THO SUNG,THO TAM,TO,WO,YO;LAObPALI :BHA,CHA,DDA,",
    "DDHA,DHA,GHA,JHA,LLA,NNA,NYA,TTA,TTHA;LAO SEMIVOWELd :LO,NYO;LAO T! MAI :CATAWA,EK,THO,TI;",
    "LAO VOWELd :A,AA,AI,AM,AY,E,EI,I,II,MAI KAN,MAI KON,O,U,UU,Y,YY;s-FACING SVASTI :SIGN,",
    "SIGNa%S;LEPCHA CONSONANTd :K,KANG,L,M,N,NYIN-DO,P,R,T;LEPCHA.:&,FIVE,_,NINE,!,@,SIX,r,|,ZERO;",
    "LEPCHAb:A,BA,BLA,CA,CHA,DA,DDA,DZA,FA,FLA,GA,GLA,HA,HLA,JA,KA,KHA,KLA,LA,MA,MLA,NA,NGA,NYA,",
    "PA,PHA,PLA,RA,SA,SHA,TA,THA,TSA,TSHA,TTA,TTHA,VA,WA,YA;LEPCHA PUNCTUATION :CER-WA,",
    "NYET THYOOM TA-ROL,TA-ROL,TS[,TS[ CER-WA;LEPCHAd :NUKTA,RAN;LEPCHA SUBJOINEDb:RA,YA;",
    "LEPCHA VOWELd :AA,E,I,O,OO,U,UU;LIMBU :EXCLAMATIONn,QUESTIONn,VOWEL-CARRIER LETTER;LIMBU.:&,",
    "FIVE,_,NINE,!,@,SIX,r,|,ZERO;LIMBUb:BA,BHA,CA,CHA,DA,DHA,GA,GHA,GYAN,HA,JA,JHA,KA,KHA,LA,MA,",
    "NA,NGA,PA,PHA,RA,SA,SHA,SSA,TA,THA,TRA,WA,YA,YAN;LIMBUd :KEMPHRENG,LOO,MUKPHRENG,SA-I;",
    "LIMBU mb:ANUSVARA,KA,LA,MA,NA,NGA,PA,RA,TA;LIMBU SUBJOINEDb:RA,WA,YA;LIMBU VOWELd :A,AI,AU,E,",
    "EE,I,O,OO,U;LISUb:A,AE,BA,CA,CHA,DA,DZA,E,EU,FA,GA,GHA,HA,HHA,I,JA,KA,KHA,LA,MA,NA,NGA,O,OE,",
    "PA,PHA,SA,SHA,TA,THA,T! NA PO,TSA,TSHA,U,UE,UH,WA,XA,YA,ZA,ZHA;LISUbT! MYA :BO,CYA,JEU,NA,TI;",
    "LISU PUNCTUATION :COMMA,FULL STOP;MALAYALAM :AU LENGTHn,DATEn;MALAYALAM.:&,FIVE,_,NINE,!,@,",
    "SIX,r,|,ZERO;MALAYALAM FRACTION ! :&H,FIFTH,FORTIETH,HALF,!-HUNDRED-AND-SIXTIETH,QUARTER,",
    "SIXTEENTH,TENTH,TWENTIETH;MALAYALAM FRACTION r :&IETHS,QUARTERS,SIXTEENTHS,TWENTIETHS;",
    "MALAYALAMb:A,AA,AI,ARCHAIC II,AU,BA,BHA,CA,CHA,DA,DDA,DDHA,DHA,% REPH,E,EE,GA,GHA,HA,I,II,JA,",
    "JHA,KA,KHA,LA,LLA,LLLA,MA,NA,NGA,NNA,NNNA,NYA,O,OO,PA,PHA,RA,RRA,SA,SHA,SSA,TA,THA,TTA,TTHA,",
    "TTTA,U,UU,VA,VEDIC ANUSVARA,YA;MALAYALAMbCHILLU :K,L,LL,LLL,M,N,NN,RR,Y;MALAYALAMbVOCALIC :L,",
    "LL,R,RR;MALAYALAM NUMBER :!w,!t,TEN;MALAYALAMd :ANUSVARA,AVAGRAHA,CANDRABINDU,",
    "CIRCULAR VIRAMA,COMBINING ANUSVARAf,PARA,u BAR VIRAMA,VIRAMA,VISARGA;MALAYALAM VOWELd :AA,AI,",
    "AU,E,EE,I,II,O,OO,U,UU;MALAYALAM VOWELd VOCALIC :L,LL,R,RR;MEETEI MAYEK :AHANG KHUDAM,ANJI,",
    "APUN IYEK,CHEIKHAN,CHEIKHEI,LUM IYEK,SYLLABLE REPETITIONn,VIRAMA,WORD REPETITIONn;",
    "MEETEI MAYEK.:&,FIVE,_,NINE,!,@,SIX,r,|,ZERO;MEETEI MAYEKb:ATIYA,BA,BHAM,CHA,CHIL,DDA,DDHA,",
    "DHOU,DIL,E,GHOU,GOK,HUK,I,I LONSUM,JHAM,JIL,KHOU,KOK,KOK LONSUM,LAI,LAI LONSUM,MIT,",
    "MIT LONSUM,NA,NA LONSUM,NGOU,NGOU LONSUM,NNA,NYA,O,PA,PA LONSUM,PHAM,RAI,SAM,SHA,SSA,THOU,",
    "TIL,TIL LONSUM,TTA,TTHA,UN,WAI,YANG;MEETEI MAYEK VOWELd :AAI,AAU,ANAP,AU,CHEINAP,II,INAP,",
    "NUNG,ONAP,SOUNAP,UNAP,UU,VISARGA,YENAP;MONGOLIAN :BIRGA,COLON,COMMA,ELLIPSIS,_ %S,FULL STOP,",
    "MANCHU COMMA,MANCHU FULL STOP,NIRUGU,SIBE SYLLABLE BOUNDARYnER,TODO SOFT HYPHEN,",
    "VOWEL SEPARATOR;MONGOLIAN.:&,FIVE,_,NINE,!,@,SIX,r,|,ZERO;",
    "MONGOLIAN FREE VARIATION SELECTOR :_,!,r,|;MONGOLIANb:A,ANG,BA,CHA,CHAa| %S,CHI,DA,E,EE,FA,",
    "GA,HAA,I,JA,KA,KHA,LA,LHA,MA,NA,O,OE,PA,QA,RA,SA,SHA,TA,TSA,U,UE,WA,YA,ZA,ZHI,ZRA;",
    "MONGOLIANbALI GALI :A,AH,ANUSVARA !,BALUDA,CA,DA,DAGALGA,DAMARU,DDA,HALF U,HALF YA,I,",
    "INVERTED UBADAMA,KA,NGA,NNA,PA,PHA,SSA,TA,r BALUDA,TTA,TTHA,UBADAMA,VISARGA !,ZA,ZHA;",
    "MONGOLIANbMANCHU :FA,I,KA,RA,ZHA;MONGOLIANbMANCHU ALI GALI :BHA,CA,CYA,DDHA,DHA,GHA,JHA,LHA,",
    "NGA,SSA,TA,TTA,ZA,ZHA;MONGOLIANbSIBE :ANG,CHA,DA,E,FA,GA,GAA,HA,HAA,I,IY,JA,KA,PA,RAA,SHA,TA,",
    "TSA,U,UE,ZA,ZHA;MONGOLIANbTODO :ALI GALI TA,ALI GALI ZHA,ANG,BA,CHA,DA,DZA,E,GA,GAA,HAA,I,JA,",
    "JIA,KA,LONG VOWELd,MA,NIA,O,OE,PA,QA,TA,TSA,U,UE,WA,YA;MYANMAR CONSONANTd :MEDIAL HA,",
    "MEDIAL RA,MEDIAL WA,MEDIAL YA,MON MEDIAL LA,MON MEDIAL MA,MON MEDIAL NA,SHAN MEDIAL WA;",
    "MYANMAR.:&,FIVE,_,NINE,!,@,SIX,r,|,ZERO;MYANMARb:A,AITON RA,AU,BA,BHA,CA,CHA,DA,DDA,DDHA,DHA,",
    "E,GA,GHA,GREAT SA,HA,I,II,JA,JHA,KA,KHA,LA,LLA,MA,MON BBA,MON BBE,MON E,MON JHA,MON NGA,NA,",
    "NGA,NNA,NNYA,NYA,O,PA,PHA,RA,RUMAI PALAUNG FA,SA,SGAW KAREN SHA,SHA,SHWE PALAUNG CHA,",
    "SHWE PALAUNG SHA,SSA,TA,THA,TTA,TTHA,U,UU,WA,YA;MYANMARbEASTERN PWO KAREN :GHWA,NNA,YWA;",
    "MYANMARbKHAMTI :CA,CHA,DDA,DDHA,DHA,FA,GA,HA,HHA,JA,JHA,NA,NYA,RA,SA,TTA,TTHA,XA,ZA;",
    "MYANMARbSHAN :A,BA,BHA,CA,CHA,DA,FA,GA,GHA,HA,JHA,KA,KHA,NA,NNA,NYA,PHA,THA,ZA;",
    "MYANMARbTAI LAING :BA,BHA,DA,DDA,DDHA,DHA,FA,GA,GHA,JA,JHA,LLA,NNA,NYA;MYANMARbVOCALIC :L,LL,",
    "R,RR;MYANMARbWESTERN PWO KAREN :PWA,THA;MYANMAR LOGOGRAM KHAMTI :HM,OAY,QN;",
    "MYANMAR MODIFIERb:KHAMTI REDUPLICATION,SHAN REDUPLICATION;MYANMAR SHAN.:&,FIVE,_,NINE,!,@,",
    "SIX,r,|,ZERO;MYANMARd :ANUSVARA,ASAT,%j,KHAMTI T!-1,KHAMTI T!-3,LITTLE SECTION,PAO KAREN T!,",
    "RUMAI PALAUNG T!-5,SECTION,TAI LAING T!-2,TAI LAING T!-5,VIRAMA,VISARGA;",
    "MYANMARd SHAN :COUNCIL EMPHATIC T!,COUNCIL T!-2,COUNCIL T!-3,SAW,T!-2,T!-3,T!-5,T!-6;",
    "MYANMARd WESTERN PWO KAREN :T!-1~5;MYANMARk :AFOREMENTI!D,AITON EXCLAMATION,AITON !,AITON |,",
    "COMPLETED,GENITIVE,LOCATIVE,SHAN EXCLAMATION,SHAN !;MYANMAR TAI LAING.:&,FIVE,_,NINE,!,@,SIX,",
    "r,|,ZERO;MYANMAR T!n SGAW KAREN :HATHI,KE PHO;MYANMAR VOWELd :AA,AI,AITON A,AITON AI,E,Ef,",
    "GEBA KAREN I,I,II,KAYAH EE,KAYAH OE,KAYAH U,MON II,MON O,SGAW KAREN EU,SHAN AA,SHAN E,",
    "SHAN Ef,SHAN o Y,TALL AA,U,UU,WESTERN PWO KAREN EU,WESTERN PWO KAREN UE;",
    "MYANMAR VOWELd VOCALIC :L,LL,R,RR;NEW TAI LUE :SIGN LAE,SIGN LAEV,THAM.!,T!n-1,T!n-2;",
    "NEW TAI LUE.:&,FIVE,_,NINE,!,@,SIX,r,|,ZERO;NEW TAI LUEbo :B,D,K,M,N,NG,V;",
    "NEW TAI LUEbHIGH :BA,DA,FA,HA,KA,KVA,LA,MA,NA,NGA,PA,PHA,QA,SA,SUA,TA,THA,TSA,VA,XA,XVA,YA;",
    "NEW TAI LUEbLOW :BA,DA,FA,HA,KA,KVA,LA,MA,NA,NGA,PA,PHA,QA,SA,SUA,TA,THA,TSA,VA,XA,XVA,YA;",
    "NEW TAI LUE VOWELd :AA,AAY,AE,AY,E,II,IY,O,OA,OAY,OY,U,UE,UEY,UU,UY,VOWEL SHORTENER;",
    "NORTH INDIC :PLACEHOLDERn,QUANTITYn,QUARTERn,RUPEEn;NORTH INDIC FRACTION :! &H,! HALF,",
    "! QUARTER,! SIXTEENTH,r QUARTERS,r SIXTEENTHS;OGHAM :FEATHERn,REVERSED FEATHERn,SPACEn;",
    "OGHAMb:AILM,BEITH,CEIRT,COLL,DAIR,EABHADH,EADHADH,EAMHANCHOLL,FEARN,GORT,IFIN,IODHADH,LUIS,",
    "MUIN,NGEADAL,NION,ONN,OR,PEITH,RUIS,SAIL,STRAIF,TINNE,UATH,UILLEANN,UR;OL CHIKI :AHAD,",
    "GAAHLAA TTUDDAAG,MU TTUDDAG,MU-GAAHLAA TTUDDAAG,PHAARKAA,RELAA;OL CHIKI.:&,FIVE,_,NINE,!,@,",
    "SIX,r,|,ZERO;OL CHIKIb:AAJ,AAK,AAM,AAW,AG,AL,ANG,AT,EDD,EN,EP,ERR,IH,INY,IR,IS,LA,LAA,LE,LI,",
    "LO,LU,OB,OH,OTT,OV,UC,UD,UNN,UY;OL CHIKI PUNCTUATION :l MUCAAD,MUCAAD;ORIYA :AI LENGTHn,",
    "AU LENGTHn,ISSHAR;ORIYA.:&,FIVE,_,NINE,!,@,SIX,r,|,ZERO;ORIYA FRACTION ! :&H,HALF,QUARTER,",
    "SIXTEENTH;ORIYA FRACTION r :QUARTERS,SIXTEENTHS;ORIYAb:A,AA,AI,AU,BA,BHA,CA,CHA,DA,DDA,DDHA,",
    "DHA,E,GA,GHA,HA,I,II,JA,JHA,KA,KHA,LA,LLA,MA,NA,NGA,NNA,NYA,O,PA,PHA,RA,RHA,RRA,SA,SHA,SSA,",
    "TA,THA,TTA,TTHA,U,UU,VA,WA,YA,YYA;ORIYAbVOCALIC :L,LL,R,RR;ORIYAd :ANUSVARA,AVAGRAHA,",
    "CANDRABINDU,NUKTA,OVERLINE,VIRAMA,VISARGA;ORIYA VOWELd :AA,AI,AU,E,I,II,O,U,UU;",
    "ORIYA VOWELd VOCALIC :L,LL,R,RR;PHAGS-PA :l HEADn,MARK l SHAD,MARK SHAD,SINGLE HEADn,",
    "SUPERFIXEDbRA;PHAGS-PAb:A,ALTERNATE YA,ASPIRATED FA,BA,CA,CANDRABINDU,CHA,DA,DDA,DZA,E,EE,FA,",
    "GA,GGA,HA,I,JA,KA,KHA,LA,MA,NA,NGA,NNA,NYA,O,PA,PHA,QA,RA,SA,SHA,m A,TA,THA,TSA,TSHA,TTA,",
    "TTHA,U,VOICED HA,VOICELESS SHA,WA,XA,YA,ZA,ZHA;PHAGS-PA SUBJOINEDb:RA,WA,YA;",
    "PHILIPPINE :l PUNCTUATION,SINGLE PUNCTUATION;REJANG :SECTIONn,VIRAMA;REJANG CONSONANTd :H,N,",
    "NG,R;REJANGb:A,BA,CA,DA,GA,HA,JA,KA,LA,MA,MBA,NA,NDA,NGA,NGGA,NYA,NYJA,PA,RA,SA,TA,WA,YA;",
    "REJANG VOWELd :AI,AU,E,EA,EU,I,O,U;i-FACING SVASTI :SIGN,SIGNa%S;RUNIC :ARLAUGk,BELGTHORk,",
    "CROSS PUNCTUATION,MULTIPLE PUNCTUATION,SINGLE PUNCTUATION,TVIMADURk;RUNICb:AC A,AESC,",
    "ALGIZ EOLHX,ANSUZ A,BERKANAN BEORC BJARKAN B,C,CALC,CEALC,CEN,CWEORTH,D,DAGAZ DAEG D,%TED-L,",
    "%TED-N,%TED-P,E,EAR,EHWAZ EH E,ENG,ETH,FEHU FEOH FE F,G,GAR,GEBO GYFU G,GER,HAEGL H,HAGLAZ H,",
    "ICELANDIC-YR,ING,INGWAZ,IOR,ISAZ IS ISS I,IWAZ EOH,JERAN J,K,KAUN K,KAUNA,LAUKAZ LAGU LOGR L,",
    "LONG-BRANCH-AR AE,LONG-BRANCH-HAGALL H,LONG-BRANCH-MADR M,LONG-BRANCH-OSS O,LONG-BRANCH-YR,",
    "MANNAZ MAN M,NAUDIZ NYD NAUD N,O,OE,ON,OO,OPEN-P,OS O,OTHALAN ETHEL O,PERTHO PEORTH P,Q,",
    "RAIDO RAD REID R,SH,SHORT-TWIG-AR A,SHORT-TWIG-BJARKAN B,SHORT-TWIG-HAGALL H,",
    "SHORT-TWIG-MADR M,SHORT-TWIG-NAUD N,SHORT-TWIG-OSS O,SHORT-TWIG-SOL S,SHORT-TWIG-TYR T,",
    "SHORT-TWIG-YR,SIGEL LONG-BRANCH-SOL S,SOWILO S,STAN,THURISAZ THURS THORN,TIWAZ TIR TYR T,",
    "URUZ UR U,V,W,WUNJO WYNN W,X,Y,YR,Z;RUNICbFRANKS CASKET :AC,AESC,EH,IS,OS;",
    "SAURASHTRA :CONSONANTd HAARU,DANDA,l DANDA;SAURASHTRA.:&,FIVE,_,NINE,!,@,SIX,r,|,ZERO;",
    "SAURASHTRAb:A,AA,AI,AU,BA,BHA,CA,CHA,DA,DDA,DDHA,DHA,E,EE,GA,GHA,HA,I,II,JA,JHA,KA,KHA,LA,",
    "LLA,MA,NA,NGA,NNA,NYA,O,OO,PA,PHA,RA,SA,SHA,SSA,TA,THA,TTA,TTHA,U,UU,VA,YA;",
    "SAURASHTRAbVOCALIC :L,LL,R,RR;SAURASHTRAd :ANUSVARA,CANDRABINDU,VIRAMA,VISARGA;",
    "SAURASHTRA VOWELd :AA,AI,AU,E,EE,I,II,O,OO,U,UU,VOCALIC L,VOCALIC LL,VOCALIC R,VOCALIC RR;",
    "SINHALAb:AAYANNA,AEEYANNA,AEYANNA,AIYANNA,AMBA BAYANNA,AUYANNA,AYANNA,DANTAJA LAYANNA,",
    "DANTAJA NAYANNA,DANTAJA SAYANNA,EEYANNA,EYANNA,FAYANNA,HAYANNA,IIYANNA,ILUUYANNA,ILUYANNA,",
    "IRUUYANNA,IRUYANNA,IYANNA,KANTAJA NAASIKYAYA,MAYANNA,OOYANNA,OYANNA,RAYANNA,",
    "TAALUJA NAASIKYAYA,TAALUJA SANYOOGA NAAKSIKYAYA,TAALUJA SAYANNA,UUYANNA,UYANNA,VAYANNA,",
    "YAYANNA;SINHALAbALPAPRAANA :BAYANNA,CAYANNA,DAYANNA,DDAYANNA,GAYANNA,JAYANNA,KAYANNA,PAYANNA,",
    "TAYANNA,TTAYANNA;SINHALAbMAHAAPRAANA :BAYANNA,CAYANNA,DAYANNA,DDAYANNA,GAYANNA,JAYANNA,",
    "KAYANNA,PAYANNA,TAYANNA,TTAYANNA;SINHALAbMUURDHAJA :LAYANNA,NAYANNA,SAYANNA;",
    "SINHALAbSANYAKA :DAYANNA,DDAYANNA,GAYANNA,JAYANNA;SINHALA LITH.:&,FIVE,_,NINE,!,@,SIX,r,|,",
    "ZERO;SINHALAd :AL-LAKUNA,ANUSVARAYA,CANDRABINDU,VISARGAYA;SINHALA VOWELd :AELA-PILLA,",
    "GAETTA-PILLA,GAYANUKITTA,KETTI AEDA-PILLA,KETTI IS-PILLA,KETTI PAA-PILLA,KOMBU DEKA,KOMBUVA;",
    "SINHALA VOWELd DIGA :AEDA-PILLA,GAETTA-PILLA,GAYANUKITTA,IS-PILLA,KOMBUVA,PAA-PILLA;",
    "SINHALA VOWELd KOMBUVA HAA :AELA-PILLA,DIGA AELA-PILLA,GAYANUKITTA;",
    "SUNDANESE CONSONANTd :PAMINGKAL,PANYAKRA,PANYIKU,PASANGAN MA,PASANGAN WA;SUNDANESE.:&,FIVE,_,",
    "NINE,!,@,SIX,r,|,ZERO;SUNDANESEb:A,AE,BA,BHA,CA,DA,E,EU,FA,o K,o M,GA,HA,I,JA,KA,KHA,LA,LEU,",
    "MA,NA,NGA,NYA,O,PA,QA,RA,REU,SA,SYA,TA,U,VA,WA,XA,YA,ZA;",
    "SUNDANESE PUNCTUATION BINDU :BA SATANGA,CAKRA,DA SATANGA,KA SATANGA,LEU SATANGA,PANGLONG,",
    "PURNAMA,SURYA;SUNDANESEd :PAMAAEH,PANGLAYAR,PANGWISAD,PANYECEK,VIRAMA;",
    "SUNDANESE VOWELd :PAMEPET,PANAELAENG,PANEULEUNG,PANGHULU,PANOLONG,PANYUKU;SYLOTI NAGRIb:A,",
    "BHO,BO,CHO,CO,DDHO,DDO,DHO,DO,E,GHO,GO,HO,I,JHO,JO,KHO,KO,LO,MO,NO,O,PHO,PO,RO,RRO,SO,THO,TO,",
    "TTHO,TTO,U;SYLOTI NAGRI POETRY :MARK-1~4;SYLOTI NAGRId :ALTERNATE HASANTA,ANUSVARA,DVISVARA,",
    "HASANTA;SYLOTI NAGRI VOWELd :A,E,I,OO,U;TAGALOGb:A,ARCHAIC RA,BA,DA,GA,HA,I,KA,LA,MA,NA,NGA,",
    "PA,RA,SA,TA,U,WA,YA;TAGALOGd :PAMUDPOD,VIRAMA;TAGALOG VOWELd :I,U;TAGBANWAb:A,BA,DA,GA,I,KA,",
    "LA,MA,NA,NGA,PA,SA,TA,U,WA,YA;TAGBANWA VOWELd :I,U;TAI LEb:A,AI,AUE,E,EE,EH,FA,HA,I,KA,KHA,",
    "LA,MA,NA,NGA,O,OO,PA,PHA,QA,SA,TA,THA,T!-2~6,TSA,TSHA,U,UE,VA,XA,YA;TAI THAM CONSONANTd :BA,",
    "o NGA,HIGH RATHA OR LOW PA,LA TANG LAI,LOW PA,MA,MEDIAL LA,MEDIAL RA,SA;TAI THAM HORA.:&,",
    "FIVE,_,NINE,!,@,SIX,r,|,ZERO;TAI THAMb:A,BA,DA,EE,GREAT SA,I,II,LA,LAE,LLA,LUE,MA,NA,NGA,NYA,",
    "OO,RA,RANA,RATA,RUE,U,UU,WA;TAI THAMbHIGH :CA,CHA,FA,HA,KA,KHA,KXA,PA,PHA,RATHA,SA,SHA,SSA,",
    "TA,THA,YA;TAI THAMbLOW :CA,CHA,FA,HA,KA,KHA,KXA,PA,PHA,RATHA,SA,TA,THA,YA;TAI THAMd :CAANG,",
    "DOKMAI,HANG,HOY,KAAN,KAANKUU,KEOW,KHUEN T!-3~5,KHUEN-LUE KARAN,MAI KANG,MAI KANG LAI,MAI SAM,",
    "MAI YAMOK,RA HAAM,REVERSED ROTATED RANA,SAKOT,SATKAAN,SATKAANKUU,SAWAN,T!-1,T!-2,WIANG,",
    "WIANGWAAK;TAI THAM THAM.:&,FIVE,_,NINE,!,@,SIX,r,|,ZERO;TAI THAM VOWELd :A,AA,AE,AI,E,I,II,",
    "MAI SAT,O,OAf,OAj,OO,OY,TALL AA,THAM AI,U,UE,UU,UUE;TAI VIETbHIGH :BO,CHO,CO,DO,FO,GO,HO,",
    "KHHO,KHO,KO,LO,MO,NGO,NO,NYO,O,PHO,PO,RO,SO,THO,TO,VO,YO;TAI VIETbLOW :BO,CHO,CO,DO,FO,GO,HO,",
    "KHHO,KHO,KO,LO,MO,NGO,NO,NYO,O,PHO,PO,RO,SO,THO,TO,VO,YO;TAI VIET MAI :KANG,KHIT;",
    "TAI VIETk :HO HOI,KOI KOI,KON,NUENG,SAM;TAI VIET T! MAI :EK,NUENG,SONG,THO;",
    "TAI VIET VOWEL :AA,AM,AN,AUE,AY,E,I,IA,O,U,UA,UE,UEA;TAMIL :ASfd,AU LENGTHn,CREDITd,DAYd,",
    "DEBITd,MONTHd,OM,RUPEEd,YEARd;TAMIL.:&,FIVE,_,NINE,!,@,SIX,r,|,ZERO;TAMILb:A,AA,AI,AU,CA,E,",
    "EE,HA,I,II,JA,KA,LA,LLA,LLLA,MA,NA,NGA,NNA,NNNA,NYA,O,OO,PA,RA,RRA,SA,SHA,SSA,TA,TTA,U,UU,VA,",
    "YA;TAMIL NUMBER :!w,!t,SIGN,TEN;TAMILd :ANUSVARA,VIRAMA,VISARGA;TAMIL VOWELd :AA,AI,AU,E,EE,",
    "I,II,O,OO,U,UU;TELUGU :AI LENGTHn,LENGTHn;TELUGU.:&,FIVE,_,NINE,!,@,SIX,r,|,ZERO;",
    "TELUGU FRACTION.:! FOR EVEN POWERS OF _,! FOR ODD POWERS OF _,r FOR EVEN POWERS OF _,",
    "r FOR ODD POWERS OF _,| FOR EVEN POWERS OF _,| FOR ODD POWERS OF _,ZERO FOR ODD POWERS OF _;",
    "TELUGUb:A,AA,AI,AU,BA,BHA,CA,CHA,DA,DDA,DDHA,DHA,DZA,E,EE,GA,GHA,HA,I,II,JA,JHA,KA,KHA,LA,",
    "LLA,LLLA,MA,NA,NAKAARA POLLU,NGA,NNA,NYA,O,OO,PA,PHA,RA,RRA,RRRA,SA,SHA,SSA,TA,THA,TSA,TTA,",
    "TTHA,U,UU,VA,YA;TELUGUbVOCALIC :L,LL,R,RR;TELUGUd :ANUSVARA,AVAGRAHA,CANDRABINDU,",
    "COMBINING ANUSVARAf,COMBINING CANDRABINDUf,NUKTA,SIDDHAM,TUUMU,VIRAMA,VISARGA;",
    "TELUGU VOWELd :AA,AI,AU,E,EE,I,II,O,OO,U,UU;TELUGU VOWELd VOCALIC :L,LL,R,RR;",
    "THAI CHARACTER :ANGKHANKHU,BO BAIMAI,CHO CHAN,CHO CHANG,CHO CHING,CHO CHOE,DO CHADA,DO DEK,",
    "FO FA,FO FAN,FONGMAN,HO HIP,HO NOKHUK,KHO KHAI,KHO KHON,KHO KHUAT,KHO KHWAI,KHO RAKHANG,",
    "KHOMUT,KO KAI,LAKKHANGYAO,LO CHULA,LO LING,LU,MAI CHATTAWA,MAI EK,MAI HAN-AKAT,MAI THO,",
    "MAI TRI,MAITAIKHU,MAIYAMOK,MO MA,NGO NGU,NIKHAHIT,NO NEN,NO NU,O ANG,PAIYANNOI,PHINTHU,",
    "PHO PHAN,PHO PHUNG,PHO SAMPHAO,PO PLA,RO RUA,RU,SO RUSI,SO SALA,SO SO,SO SUA,THANTHAKHAT,",
    "TO PATAK,TO TAO,WO WAEN,YAMAKKAN,YO YAK,YO YING;THAI CHARACTER SARA :A,AA,AE,AI MAIMALAI,",
    "AI MAIMUAN,AM,E,I,II,O,U,UE,UEE,UU;THAI CHARACTER THO :NANGMONTHO,PHUTHAO,THAHAN,THAN,THONG,",
    "THUNG;THAI.:&,FIVE,_,NINE,!,@,SIX,r,|,ZERO;TIBETAN :KU RU KHA,KU RU KHA BZHI MIG CAN,",
    "SYLLABLE OM;TIBETAN ASTROLOGICALd :-KHYUD PA,SDONG TSHUGS,SGRA GCAN -CHAR RTAGS;",
    "TIBETAN CANTILLATIONd :CANG TE-U,HEAVY BEAT,LIGHT BEAT,SBUB -CHAL;TIBETAN.:&,FIVE,_,NINE,!,@,",
    "SIX,r,|,ZERO;TIBETAN.HALF :&,FIVE,_,NINE,!,@,SIX,r,|,ZERO;TIBETANb:-A,A,BA,BHA,CA,CHA,DA,DDA,",
    "DDHA,DHA,DZA,DZHA,FIXED-FORM RA,GA,GHA,HA,JA,KA,KHA,KKA,KSSA,LA,MA,NA,NGA,NNA,NYA,PA,PHA,RA,",
    "RRA,SA,SHA,SSA,TA,THA,TSA,TSHA,TTA,TTHA,WA,YA,ZA,ZHA;TIBETAN LOGOTYPEd :CHAD RTAGS,",
    "LHAG RTAGS;TIBETANn :ANG KHANG GYAS,ANG KHANG GYON,BKA- SHOG YIG MGO,BSDUS RTAGS,",
    "BSKA- SHOG GI MGO RGYAN,BSKUR YIG MGO,CARET YIG MGO PHUR SHAD MA,CHE MGO,",
    "CLOSING BRDA RNYING YIG MGO SGAB MA,CLOSING YIG MGO SGAB MA,DELIMITER TSHEG BSTAR,GTER TSHEG,",
    "GUG RTAGS GYAS,GUG RTAGS GYON,HALANTA,p BRDA RNYING YIG MGO MDUN MA,p YIG MGO MDUN MA,",
    "INTERSYLLABIC TSHEG,LEADING MCHAN RTAGS,MNYAM YIG GI MGO RGYAN,NGAS BZUNG NYI ZLA,",
    "NGAS BZUNG SGOR RTAGS,NYIS SHAD,NYIS TSHEG,NYIS TSHEG SHAD,PALUTA,RGYA GRAM SHAD,",
    "RIN CHEN SPUNGS SHAD,SBRUL SHAD,SHAD,TRAILING MCHAN RTAGS,TSA -PHRU,TSHEG SHAD,",
    "YIG MGO TSHEG SHAD MA;TIBETANn CARET -DZUD RTAGS :BZHI MIG CAN,ME LONG CAN;",
    "TIBETANn GTER YIG MGO :-UM GTER TSHEG MA,-UM RNAM BCAD MA,TRUNCATED A;",
    "TIBETANd :GRU CAN RGYINGS,GRU MED RGYINGS,INVERTED MCHU CAN,LCE TSA CAN,LCI RTAGS,MAR TSHES,",
    "MCHU CAN,NYI ZLA NAA DA,RJES SU NGA RO,RNAM BCAD,SNA LDAN,YANG RTAGS,YAR TSHES;",
    "TIBETANd RDEL DKAR :GCIG,GNYIS,GSUM,RDEL NAG;TIBETANd RDEL NAG :GCIG,GNYIS,GSUM,RDEL DKAR;",
    "TIBETAN SUBJOINEDb:-A,A,BA,BHA,CA,CHA,DA,DDA,DDHA,DHA,DZA,DZHA,FIXED-FORM RA,FIXED-FORM WA,",
    "FIXED-FORM YA,GA,GHA,HA,JA,KA,KHA,KSSA,LA,MA,NA,NGA,NNA,NYA,PA,PHA,RA,SA,SHA,SSA,TA,THA,TSA,",
    "TSHA,TTA,TTHA,WA,YA,ZA,ZHA;TIBETAN SUBJOINEDd :INVERTED MCHU CAN,LCE TSA CAN,MCHU CAN;",
    "TIBETANk :DRIL BU,NOR BU,NOR BU BZHI -KHYIL,NOR BU GSUM -KHYIL,NOR BU NYIS -KHYIL,PADMA GDAN,",
    "PHUR PA,RDO RJE,RDO RJE RGYA GRAM;TIBETAN VOWELd :AA,E,EE,I,II,O,OO,REVERSED I,REVERSED II,U,",
    "UU;TIBETAN VOWELd VOCALIC :L,LL,R,RR;VAI :COMMA,FULL STOP,QUESTIONn;VAI.:&,FIVE,_,NINE,!,@,",
    "SIX,r,|,ZERO;VAI SYLLABLE :A,AN,BA,BE,BEE,BHA,BHE,BHEE,BHI,BHO,BHOO,BHU,BI,BO,BOO,BU,CA,CE,",
    "CEE,CI,CO,COO,CU,DA,DE,DEE,DHA,DHE,DHEE,DHHA,DHHE,DHHEE,DHHI,DHHO,DHHOO,DHHU,DHI,DHO,DHOO,",
    "DHU,DI,DO,DOO,DU,E,EE,EEN,EN,FA,FE,FEE,FI,FO,FOO,FU,GA,GBA,GBE,GBEE,GBEN,GBI,GBO,GBON,GBOO,",
    "GBU,GE,GEE,GEN,GI,GO,GOO,GU,HA,HAN,HE,HEE,HEN,HI,HIN,HO,HON,HOO,HU,HUN,I,IN,JA,JE,JEE,JI,JO,",
    "JOO,JU,KA,KAN,KE,KEE,KI,KO,KOO,KPA,KPAN,KPE,KPEE,KPEN,KPI,KPO,KPOO,KPU,KU,LA,LE,LEE,",
    "LENGTHENER,LI,LO,LOO,LU,MA,MBA,MBE,MBEE,MBI,MBO,MBOO,MBU,ME,MEE,MGBA,MGBE,MGBEE,MGBI,MGBO,",
    "MGBOO,MGBU,MI,MO,MOO,MU,NA,NDA,NDE,NDEE,NDI,NDO,NDOO,NDU,NE,NEE,NG,NGAN,NGEN,NGGA,NGGE,NGGEE,",
    "NGGEN,NGGI,NGGO,NGGOO,NGGU,NGON,NI,NJA,NJE,NJEE,NJI,NJO,NJOO,NJU,NO,NOO,NU,NYA,NYE,NYEE,NYI,",
    "NYO,NYOO,NYU,O,ON,OO,OON,PA,PE,PEE,PI,PO,POO,PU,RA,RE,REE,RI,RO,ROO,RU,SA,SE,SEE,SHA,SHE,",
    "SHEE,SHI,SHO,SHOO,SHU,SI,SO,SOO,SU,TA,TE,TEE,THA,THE,THEE,THI,THO,THOO,THU,TI,TO,TOO,TU,U,UN,",
    "VA,VE,VEE,VI,VO,VOO,VU,WA,WAN,WE,WEE,WEEN,WEN,WI,WIN,WO,WON,WOO,WOON,WU,WUN,YA,YE,YEE,YI,YO,",
    "YOO,YU,ZA,ZE,ZEE,ZHA,ZHE,ZHEE,ZHI,ZHO,ZHOO,ZHU,ZI,ZO,ZOO,ZU;VAI SYLLABLE NDOLE :DO,FA,KA,MA,",
    "SOO;VAIk :BANG,DANG,DO-O,DOONG,FAA,FEENG,JONG,KEENG,KUNG,NII,TAA,TING,TONG;",
    "VEDICd :ARDHAVISARGA,ATIKRAMA,l ANUSVARA ANTARGOMUKHA,HEXIFORM LONG ANUSVARA,JIHVAMULIYA,",
    "LONG ANUSVARA,NIHSHVASA,ROTATED ARDHAVISARGA,RTHANG LONG ANUSVARA,TIRYAK,UPADHMANIYA,",
    "YAJURVEDIC MIDLINE SVARITA;VEDICd ANUSVARA :ANTARGOMUKHA,BAHIRGOMUKHA,UBHAYATO MUKHA,",
    "VAMAGOMUKHA,VAMAGOMUKHAaTAIL;VEDICd REVERSED VISARGA :ANUDATTA,UDATTA;",
    "VEDICd VISARGA :ANUDATTA,ANUDATTAaTAIL,SVARITA,UDATTA,UDATTAaTAIL;",
    "VEDIC T! :ATHARVAVEDIC INDEPENDENT SVARITA,CANDRAf,CANDRAj,%j,l RINGf,l SVARITA,KARSHANA,",
    "KATHAKA ANUDATTA,PRENKHA,RIGVEDIC KASHMIRI INDEPENDENT SVARITA,RINGf,SHARA,r %Sj,",
    "TRIPLE SVARITA,| %Sj;VEDIC T! YAJURVEDIC :AGGRAVATED INDEPENDENT SVARITA,INDEPENDENT SVARITA,",
    "KATHAKA INDEPENDENT SVARITA,KATHAKA INDEPENDENT SVARITA SCHROEDER;YI RADICAL :BBUT,BUR,CHE,",
    "CIP,CUOP,CY,CYP,CYT,DDUR,DU,GA,GEP,GGOP,GGUO,GOT,HMO,HXIT,HXOP,HXUO,JJIE,JJUT,JJY,JO,KE,KIT,",
    "LI,LIE,LYR,MI,MOP,NBIE,NYIP,NYOP,NZUP,OP,PUT,PYT,QOT,SHAT,SHOP,SHUR,SHY,SSI,TAT,TU,VEP,VUR,",
    "WO,YIT,YO,ZA,ZOT,ZUP,ZUR,ZZIET;YI SYLLABLE :A,AP,AT,AX,BA,BAP,BAT,BAX,BBA,BBAP,BBAT,BBAX,BBE,",
    "BBEP,BBEX,BBI,BBIE,BBIEP,BBIET,BBIEX,BBIP,BBIT,BBIX,BBO,BBOP,BBOT,BBOX,BBU,BBUO,BBUOP,BBUOX,",
    "BBUP,BBUR,BBURX,BBUT,BBUX,BBY,BBYP,BBYT,BBYX,BE,BEP,BEX,BI,BIE,BIEP,BIET,BIEX,BIP,BIT,BIX,BO,",
    "BOP,BOT,BOX,BU,BUO,BUOP,BUOX,BUP,BUR,BURX,BUT,BUX,BY,BYP,BYR,BYRX,BYT,BYX,CA,CAP,CAT,CAX,CE,",
    "CEP,CEX,CHA,CHAP,CHAT,CHAX,CHE,CHEP,CHET,CHEX,CHO,CHOP,CHOT,CHOX,CHU,CHUO,CHUOP,CHUOT,CHUOX,",
    "CHUP,CHUR,CHURX,CHUX,CHY,CHYP,CHYR,CHYRX,CHYT,CHYX,CI,CIE,CIEP,CIET,CIEX,CIP,CIT,CIX,CO,COP,",
    "COT,COX,CU,CUO,CUOP,CUOX,CUP,CUR,CURX,CUT,CUX,CY,CYP,CYR,CYRX,CYT,CYX,DA,DAP,DAT,DAX,DDA,",
    "DDAP,DDAT,DDAX,DDE,DDEP,DDEX,DDI,DDIE,DDIEP,DDIEX,DDIP,DDIT,DDIX,DDO,DDOP,D%,DDOX,DDU,DDUO,",
    "DDUOP,DDUOX,DDUP,DDUR,DDURX,DDUT,DDUX,DE,DEP,DEX,DI,DIE,DIEP,DIEX,DIP,DIT,DIX,DO,DOP,%,DOX,",
    "DU,DUO,DUOX,DUP,DUR,DURX,DUT,DUX,E,EX,FA,FAP,FAT,FAX,FI,FIP,FIT,FIX,FO,FOP,FOX,FU,FUP,FUR,",
    "FURX,FUT,FUX,FY,FYP,FYT,FYX,GA,GAP,GAT,GAX,GE,GEP,GET,GEX,GGA,GGAP,GGAT,GGAX,GGE,GGEP,GGET,",
    "GGEX,GGI,GGIE,GGIEP,GGIEX,GGIT,GGIX,GGO,GGOP,GGOT,GGOX,GGU,GGUO,GGUOP,GGUOT,GGUOX,GGUP,GGUR,",
    "GGURX,GGUT,GGUX,GI,GIE,GIEP,GIET,GIEX,GIP,GIT,GIX,GO,GOP,GOT,GOX,GU,GUO,GUOP,GUOT,GUOX,GUP,",
    "GUR,GURX,GUT,GUX,HA,HAP,HAT,HAX,HE,HEP,HEX,HIE,HIEX,HIT,HLA,HLAP,HLAT,HLAX,HLE,HLEP,HLEX,HLI,",
    "HLIE,HLIEP,HLIEX,HLIP,HLIT,HLIX,HLO,HLOP,HLOX,HLU,HLUO,HLUOP,HLUOX,HLUP,HLUR,HLURX,HLUT,HLUX,",
    "HLY,HLYP,HLYR,HLYRX,HLYT,HLYX,HMA,HMAP,HMAT,HMAX,HMI,HMIE,HMIEP,HMIEX,HMIP,HMIT,HMIX,HMO,",
    "HMOP,HMOT,HMOX,HMU,HMUO,HMUOP,HMUOX,HMUP,HMUR,HMURX,HMUT,HMUX,HMY,HMYP,HMYR,HMYRX,HMYX,HNA,",
    "HNAP,HNAT,HNAX,HNE,HNEP,HNEX,HNI,HNIE,HNIEP,HNIET,HNIEX,HNIP,HNIT,HNIX,HNOP,HNOT,HNOX,HNUO,",
    "HNUOX,HNUT,HO,HOP,HOT,HOX,HUO,HUOP,HUOT,HUOX,HXA,HXAP,HXAT,HXAX,HXE,HXEP,HXEX,HXI,HXIE,HXIEP,",
    "HXIET,HXIEX,HXIP,HXIT,HXIX,HXO,HXOP,HXOT,HXOX,HXUO,HXUOP,HXUOT,HXUOX,I,IE,IEP,IET,IEX,IP,IT,",
    "IX,JI,JIE,JIEP,JIET,JIEX,JIP,JIT,JIX,JJI,JJIE,JJIEP,JJIET,JJIEX,JJIP,JJIT,JJIX,JJO,JJOP,JJOT,",
    "JJOX,JJU,JJUO,JJUOP,JJUOX,JJUP,JJUR,JJURX,JJUT,JJUX,JJY,JJYP,JJYT,JJYX,JO,JOP,JOT,JOX,JU,JUO,",
    "JUOP,JUOT,JUOX,JUP,JUR,JURX,JUT,JUX,JY,JYP,JYR,JYRX,JYT,JYX,KA,KAP,KAT,KAX,KE,KEP,KET,KEX,KI,",
    "KIE,KIEP,KIEX,KIP,KIT,KIX,KO,KOP,KOT,KOX,KU,KUO,KUOP,KUOX,KUP,KUR,KURX,KUT,KUX,LA,LAP,LAT,",
    "LAX,LE,LEP,LEX,LI,LIE,LIEP,LIET,LIEX,LIP,LIT,LIX,LO,LOP,LOT,LOX,LU,LUO,LUOP,LUOT,LUOX,LUP,",
    "LUR,LURX,LUT,LUX,LY,LYP,LYR,LYRX,LYT,LYX,MA,MAP,MAT,MAX,ME,MEX,MGA,MGAP,MGAT,MGAX,MGE,MGEP,",
    "MGEX,MGIE,MGIEX,MGO,MGOP,MGOT,MGOX,MGU,MGUO,MGUOP,MGUOX,MGUP,MGUR,MGURX,MGUT,MGUX,MI,MIE,",
    "MIEP,MIEX,MIP,MIT,MIX,MO,MOP,MOT,MOX,MU,MUO,MUOP,MUOT,MUOX,MUP,MUR,MURX,MUT,MUX,MY,MYP,MYT,",
    "MYX,NA,NAP,NAX,NBA,NBAP,NBAT,NBAX,NBI,NBIE,NBIEP,NBIEX,NBIP,NBIT,NBIX,NBO,NBOP,NBOT,NBOX,NBU,",
    "NBUP,NBUR,NBURX,NBUT,NBUX,NBY,NBYP,NBYR,NBYRX,NBYT,NBYX,NDA,NDAP,NDAT,NDAX,NDE,NDEP,NDEX,NDI,",
    "NDIE,NDIEX,NDIP,NDIT,NDIX,NDO,NDOP,N%,NDOX,NDU,NDUP,NDUR,NDURX,NDUT,NDUX,NE,NEP,NEX,NGA,NGAP,",
    "NGAT,NGAX,NGE,NGEP,NGEX,NGIE,NGIEP,NGIEX,NGO,NGOP,NGOT,NGOX,NGUO,NGUOT,NGUOX,NI,NIE,NIEP,",
    "NIEX,NIP,NIT,NIX,NJI,NJIE,NJIEP,NJIET,NJIEX,NJIP,NJIT,NJIX,NJO,NJOP,NJOT,NJOX,NJU,NJUO,NJUOX,",
    "NJUP,NJUR,NJURX,NJUX,NJY,NJYP,NJYR,NJYRX,NJYT,NJYX,NO,NOP,NOT,NOX,NRA,NRAP,NRAT,NRAX,NRE,",
    "NREP,NRET,NREX,NRO,NROP,NROX,NRU,NRUP,NRUR,NRURX,NRUT,NRUX,NRY,NRYP,NRYR,NRYRX,NRYT,NRYX,NU,",
    "NUO,NUOP,NUOX,NUP,NUR,NURX,NUT,NUX,NYI,NYIE,NYIEP,NYIET,NYIEX,NYIP,NYIT,NYIX,NYO,NYOP,NYOT,",
    "NYOX,NYU,NYUO,NYUOP,NYUOX,NYUP,NYUT,NYUX,NZA,NZAP,NZAT,NZAX,NZE,NZEX,NZI,NZIE,NZIEP,NZIEX,",
    "NZIP,NZIT,NZIX,NZOP,NZOX,NZU,NZUO,NZUOX,NZUP,NZUR,NZURX,NZUX,NZY,NZYP,NZYR,NZYRX,NZYT,NZYX,O,",
    "OP,OT,OX,PA,PAP,PAT,PAX,PI,PIE,PIEP,PIEX,PIP,PIT,PIX,PO,POP,POT,POX,PU,PUO,PUOP,PUOX,PUP,PUR,",
    "PURX,PUT,PUX,PY,PYP,PYR,PYRX,PYT,PYX,QI,QIE,QIEP,QIET,QIEX,QIP,QIT,QIX,QO,QOP,QOT,QOX,QU,QUO,",
    "QUOP,QUOT,QUOX,QUP,QUR,QURX,QUT,QUX,QY,QYP,QYR,QYRX,QYT,QYX,RA,RAP,RAT,RAX,RE,REP,REX,RO,ROP,",
    "ROT,ROX,RRA,RRAX,RRE,RREP,RRET,RREX,RRO,RROP,RROT,RROX,RRU,RRUO,RRUOX,RRUP,RRUR,RRURX,RRUT,",
    "RRUX,RRY,RRYP,RRYR,RRYRX,RRYT,RRYX,RU,RUO,RUOP,RUOX,RUP,RUR,RURX,RUT,RUX,RY,RYP,RYR,RYRX,RYT,",
    "RYX,SA,SAP,SAT,SAX,SE,SEP,SEX,SHA,SHAP,SHAT,SHAX,SHE,SHEP,SHET,SHEX,SHO,SHOP,SHOT,SHOX,SHU,",
    "SHUO,SHUOP,SHUOX,SHUP,SHUR,SHURX,SHUT,SHUX,SHY,SHYP,SHYR,SHYRX,SHYT,SHYX,SI,SIE,SIEP,SIEX,",
    "SIP,SIT,SIX,SO,SOP,SOT,SOX,SSA,SSAP,SSAT,SSAX,SSE,SSEP,SSEX,SSI,SSIE,SSIEP,SSIEX,SSIP,SSIT,",
    "SSIX,SSO,SSOP,SSOT,SSOX,SSU,SSUP,SSUT,SSUX,SSY,SSYP,SSYR,SSYRX,SSYT,SSYX,SU,SUO,SUOP,SUOX,",
    "SUP,SUR,SURX,SUT,SUX,SY,SYP,SYR,SYRX,SYT,SYX,TA,TAP,TAT,TAX,TE,TEP,TEX,TI,TIE,TIEP,TIEX,TIP,",
    "TIT,TIX,TO,TOP,TOT,TOX,TU,TUO,TUOP,TUOT,TUOX,TUP,TUR,TURX,TUT,TUX,UO,UOP,UOX,VA,VAP,VAT,VAX,",
    "VEP,VEX,VI,VIE,VIEP,VIET,VIEX,VIP,VIT,VIX,VO,VOP,VOT,VOX,VU,VUP,VUR,VURX,VUT,VUX,VY,VYP,VYR,",
    "VYRX,VYT,VYX,WA,WAP,WAT,WAX,WE,WEP,WEX,WO,WOP,WOX,WU,WUO,WUOP,WUOX,XI,XIE,XIEP,XIET,XIEX,XIP,",
    "XIT,XIX,XO,XOP,XOT,XOX,XUO,XUOX,XY,XYP,XYR,XYRX,XYT,XYX,YI,YIE,YIEP,YIET,YIEX,YIP,YIT,YIX,YO,",
    "YOP,YOT,YOX,YU,YUO,YUOP,YUOT,YUOX,YUP,YUR,YURX,YUT,YUX,YY,YYP,YYR,YYRX,YYT,YYX,ZA,ZAP,ZAT,",
    "ZAX,ZE,ZEP,ZEX,ZHA,ZHAP,ZHAT,ZHAX,ZHE,ZHEP,ZHET,ZHEX,ZHO,ZHOP,ZHOT,ZHOX,ZHU,ZHUO,ZHUOP,ZHUOX,",
    "ZHUP,ZHUR,ZHURX,ZHUT,ZHUX,ZHY,ZHYP,ZHYR,ZHYRX,ZHYT,ZHYX,ZI,ZIE,ZIEP,ZIEX,ZIP,ZIT,ZIX,ZO,ZOP,",
    "ZOT,ZOX,ZU,ZUO,ZUOP,ZUOX,ZUP,ZUR,ZURX,ZUT,ZUX,ZY,ZYP,ZYR,ZYRX,ZYT,ZYX,ZZA,ZZAP,ZZAT,ZZAX,ZZE,",
    "ZZEP,ZZEX,ZZI,ZZIE,ZZIEP,ZZIET,ZZIEX,ZZIP,ZZIT,ZZIX,ZZO,ZZOP,ZZOX,ZZU,ZZUP,ZZUR,ZZURX,ZZUX,",
    "ZZY,ZZYP,ZZYR,ZZYRX,ZZYT,ZZYX"]

end BlockQuery.Text.CharacterName
