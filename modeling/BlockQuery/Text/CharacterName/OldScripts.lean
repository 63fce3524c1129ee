/-!
# Names of old and rare scripts

The names of the characters of scripts that are no longer, or seldom, written.
The lines make up one text, of groups of names between semicolons: what the names of
a group have in common, a colon, and their endings. Small letters and other signs
stand for words.
-/

namespace BlockQuery.Text.CharacterName

/-- The names of the characters of scripts that are no longer, or seldom, written. -/
def oldScripts : List String :=
  [":AHOMk VI,ASCIAk,AVESTAN ABBREVIATIONn,BASSA VAH FULL STOP,CAUCASIAN ALBANIAN CITATIONn,",
    "COMBINING BINDUj,COPTIC EPACTtSn,DOGRA ABBREVIATIONd,ELYMAIC LIGATURE ZAYIN-YODH,",
    "IMPERIAL ARAMAIC SECTIONd,KHITAN m SCRIPT FILLER,LISUbYHA,LYDIAN TRIANGULARn,MANICHAEANd UD,",
    "MULTANI SECTIONn,NABATAEAN CRUCIFORM NUMBER _,NANDINAGARI HEADq,NOMISMAd,NUSHU ITERATIONn,",
    "OLD PERSIAN WORD DIVIDER,PHOENICIAN WORD SEPARATOR,m | %S OVER ! % PUNCTUATION,",
    "SOGDIAN INDEPENDENT SHIN,TAKRI ABBREVIATIONd,TINY | %S OVER ! % PUNCTUATION,TOTOd RISING T!,",
    "UGARITIC WORD DIVIDER,WANCHO NGUNd,WARANG CITI OM,YEZIDI HYPHENATIONn;ADLAM :ALIF LENGTHENER,",
    "CONSONANT MODIFIER,GEMINATE CONSONANT MODIFIER,GEMINATIONn,HAMZA,p EXCLAMATIONn,p QUESTIONn,",
    "NASALIZATIONn,NUKTA,VOWEL LENGTHENER;ADLAM+b:ALIF,BA,BHE,CHI,DAALI,DHA,E,FA,GA,GBE,HA,I,JIIM,",
    "KAF,KHA,KPO,LAAM,MIIM,NHA,NUN,NYA,O,PE,QAAF,RA,SHA,SINNYIIYHE,TU,U,VA,WAW,YA,YHE,ZAL;",
    "ADLAM.:&,FIVE,_,NINE,!,@,SIX,r,|,ZERO;ADLAM mb:ALIF,BA,BHE,CHI,DAALI,DHA,E,FA,GA,GBE,HA,I,",
    "JIIM,KAF,KHA,KPO,LAAM,MIIM,NHA,NUN,NYA,O,PE,QAAF,RA,SHA,SINNYIIYHE,TU,U,VA,WAW,YA,YHE,ZAL;",
    "AEGEAN :CHECKn,DRY MEASURE FIRST SUBUNIT,LIQUID MEASURE FIRST SUBUNIT,MEASURE SECOND SUBUNIT,",
    "MEASURE THIRD SUBUNIT;AEGEAN NUMBER :&,&w,&t,&Y,&Yt,FIFTY,FIFTYt,FIVE,FIVEw,FIVEt,FORTY,",
    "FORTYt,_,_w,_t,NINE,NINEw,NINEt,NINETY,NINETYt,!,!w,!t,@,@w,@t,@TY,@TYt,SIX,SIXw,SIXt,SIXTY,",
    "SIXTYt,TEN,TENt,THIRTY,THIRTYt,r,rw,rt,TWENTY,TWENTYt,|,|w,|t;AEGEAN W& :BASE UNIT,",
    "FIRST SUBUNIT,_TH SUBUNIT,SECOND SUBUNIT,THIRD SUBUNIT;AEGEAN WORD SEPARATOR :%,LINE;",
    "AHOM CONSONANTd MEDIAL :LA,LIGATING RA,RA;AHOM.:&,FIVE,_,NINE,!,@,SIX,r,|,ZERO;AHOMb:A,BA,",
    "BHA,CA,CHA,DA,DDA,DDHA,DHA,GA,GHA,HA,JA,JHA,KA,KHA,LA,LLA,MA,NA,NGA,NNA,NYA,PA,PHA,RA,SA,TA,",
    "THA,TTA,TTHA;AHOMbALTERNATE :BA,GA,TA;AHOM NUMBER :TEN,TWENTY;AHOMd :KILLER,RULAI,SECTION,",
    "m SECTION;AHOM VOWELd :A,AA,AI,AM,AW,E,I,II,O,U,UU;ANATOLIAN HIEROGLYPH :A001~331,A010A,",
    "A026A,A039A,A041A,A045A,A046A,A046B,A066A,A066B,A066C,A097A,A098A,A100A,A101A,A102A,A104A,",
    "A104B,A104C,A105A,A105B,A107A,A107B,A107C,A110A,A110B,A115A,A125A,A135A,A202A,A202B,A207A,",
    "A209A,A215A,A216A,A227A,A267A,A289A,A294A,A299A,A309A,A329A,A332A,A332B,A332C,A333~382,A336A,",
    "A336B,A336C,A359A,A364A,A368A,A371A,A381A,A383 RA OR RI,A383A,A384~392,A386A,A393 &,A394~409,",
    "A410 BEGIN LOGOGRAMn,A410A END LOGOGRAMn,A411~497,A450A,A457A,A501~530;> MATHEMATICAL :AIN,",
    "ALEF,BEH,DAD,DAL,FEH,GHAIN,HAH,JEEM,KAF,KHAH,LAM,MEEM,NOON,OPERATOR HAHaDAL,",
    "OPERATOR MEEMaHAHaTATWEEL,QAF,REH,SAD,SEEN,SHEEN,TAH,TEH,THAL,THEH,WAW,YEH,ZAH,ZAIN;",
    "> MATHEMATICAL %LESS :BEH,FEH,NOON,QAF;> MATHEMATICAL l-STRUCK :AIN,BEH,DAD,DAL,FEH,GHAIN,",
    "HAH,JEEM,KHAH,LAM,MEEM,NOON,QAF,REH,SAD,SEEN,SHEEN,TAH,TEH,THAL,THEH,WAW,YEH,ZAH,ZAIN;",
    "> MATHEMATICAL p :AIN,BEH,DAD,FEH,GHAIN,HAH,HEH,JEEM,KAF,KHAH,LAM,MEEM,NOON,QAF,SAD,SEEN,",
    "SHEEN,TEH,THEH,YEH;> MATHEMATICAL LOOPED :AIN,ALEF,BEH,DAD,DAL,FEH,GHAIN,HAH,HEH,JEEM,KHAH,",
    "LAM,MEEM,NOON,QAF,REH,SAD,SEEN,SHEEN,TAH,TEH,THAL,THEH,WAW,YEH,ZAH,ZAIN;",
    "> MATHEMATICAL STRETCHED :AIN,BEH,DAD,%LESS BEH,%LESS FEH,FEH,GHAIN,HAH,HEH,JEEM,KAF,KHAH,",
    "MEEM,NOON,QAF,SAD,SEEN,SHEEN,TAH,TEH,THEH,YEH,ZAH;> MATHEMATICAL TAILED :AIN,DAD,%LESS NOON,",
    "%LESS QAF,GHAIN,HAH,JEEM,KHAH,LAM,NOON,QAF,SAD,SEEN,SHEEN,YEH;AVESTANb:A,AA,AAN,AAO,AE,AEE,",
    "AN,AO,BE,BHE,CE,DE,DHE,E,EE,FE,GE,GGE,GHE,HE,HME,I,II,JE,KE,LE,ME,NE,NGE,NGVE,NGYE,NNE,NYE,O,",
    "OO,PE,RE,SE,SHE,SHYE,SSHE,TE,THE,TTE,U,UU,VE,XE,XVE,XYE,YE,YYE,ZE,ZHE;BAMUMbPHASE-A :FIRI,",
    "GBIEE FON,GHEUAEGHEUAE,GHEUAERAE,KAFA,KAQ,KET,KEUKEUTNDA,KPOQ,KUOQ,LAPAQ,LET KUT,LOMMAE,LU,",
    "LUAEP,MAEKEUP,MAEM,MAEMBGBIEE,MAEMKPEN,MAEMVEUX,MAENYI,MAESI,MANSUAE,MAP PIEET,MBANYI,MBAQ,",
    "MEUNJOMNDEUQ,MGBASA,MON NGGEUAET,MOOMEUT,MOOMPUQ,MVEUAENGAM,NAA MFON,NAQ,NDA LEERAEWA,",
    "NDAANGGEUAET,NEN,NGANGU,NGGEN,NGKUE MFON,NGKUENZEUM,NIKA,NJAM,NKAARAE,NKINDI,NSHA,NSHIEE,",
    "NTAP,NTAP MFAA,NTAP NTAA,NTOQPEN,NYET,NYI,NYIT MONGKEUAEQ,NZA MFON,NZUN MEUT,PA LEERAEWA,",
    "PAAM,PAARAE,PAMSHAE,PASHAE,PET,PON MFON PIPAEMBA,PON MFON PIPAEMGBIEE,PON PA NJI PIPAEMBA,",
    "PON PA NJI PIPAEMGBIEE,PUP,ROM,SEUNYAM,SHINDA PA NJI,SHIRAE,SHOQ NSHUT YUM,SHUENSHUET,SHUM,",
    "SISA,SONJAM,SOQ,SOT,SUU,TEUAEN,TEUTEUWEN,TITA MFON,TU MAEMBA,TUAEP,U YUQ NAE,UNKNOWN,VEE;",
    "BAMUMbPHASE-B :FEE,FEUX,GHEUGHEN,GHEUGHEUAEM,KAM,KEUAEM,KEUPUQ,KEUYEUX,KIEEM,KIQ,LAANAE,",
    "LAM NSHUT NYAM,LET,LOM NTEUM,MA,MA NJEUAENA,MA NJUQA,MBA MAELEE,MBAARAE,MBEURI,MBIT MBAAKET,",
    "MBUOQ,MEUQ,MEUT NGGEET,MFIYAQ,MFON TEUAEQ,MONTIEEN,NDU NJAA,NGGAAM,NGGEU MBU,NGGUOQ,",
    "NGGUOQ LARGE,NGKINDI MVOP,NGOM,NSEN,NSHUET,NTIEE SHEUOQ,NYAEMAE,NYI NTEUM,PARUM,PEESHI,PIT,",
    "PUNGAAM,SAKEUAE,SET TU,SHET NJAQ,SHEUAEQTU,SIEE,SUE,TAAM,TU MAEMGBIEE,TU NSIEE,VEUM,WUAET,",
    "YAFU LEERAEWA,YEURAE;BAMUMbPHASE-C :BUNG,FUE,GBAYI,GHAP,GHARAE,KAA,KEN FATIGUE,KEN LAW,KET,",
    "KEUKAQ,KEUM,KEUSEUX,KEUSHEUAEP,KPARAQ,KUOP NKAARAE,KUT,LAM,LAP,LIQ,LU,MA KEUAERI,MA NSIEE,",
    "MAEMBA,MAESI,MBAA CABBAGE-TREE,MBAA PICKET,MBANYI,MBEEKEET,MBERAE,MBEUM,MBEUX,MBI,MBIRIEEN,",
    "MBIT,MBUAEM,MBUE,MGBASAQ,MIEE,MUAE,NANSANAQ,NAQ,NDAM,NDAP,NDEUAEREE,NDEUT,NDIDA,NDOMBU,NGAQ,",
    "NGGEN,NGGU,NGGUAEN NYAM,NGGUEET,NGGUM,NGGUON,NGKAQ,NGKUE MAEMBA,NGOM,NJAEM,NJAM,NJEEEE,NJEUX,",
    "NJUEQ,NSA,NSEUAEN,NSHAQ,NSOM,NSUN,NSUOT NGOM,NTAA,NTEN,NTEUNGBA,NTU MBIT,NYIR MKPARAQ MEUN,",
    "NZA,NZEUM,PEN,PIN,PIRIEEN,RU,SETFON,SEUX,SHIQ,SHUEQ,SUAET,TAASHAE,TET,TEUTEUX,TITA YUE,",
    "TITUAEP,VEUAEPEN,VEUX,WANGKUOQ,WUP,YAA,YEUQ,YU MUOMAE,YUM,YUWOQ;BAMUMbPHASE-D :FAA,FEUFEUAET,",
    "GHAA,GHEUAE,KET,KEUAETMEUN,KEUM,KEUOT MBUAE,KEUP,KU,KUN,KUOM,KUQ,KWAET,KYEE,LEEEE,LET,LEUAEP,",
    "LEUM,LIEE,LOQ,LUM,M,MAENJET,MALEERI,MBAA,MBAA @,MBUO,MEEEE,MEUN,MEUT,MFEUAE,MFEUT,MFIEE,MFO,",
    "MFON,MGBEUN,MGBIEE,MGBOFUM,MONI,MU,MVOP,NDAM,NDEE,NDEUX,NDON,NGGAAM,NGGAAMAE,NGGAP,NGGEUX,",
    "NGGUOM,NGGWAEN,NGKAP,NGKEUAEQ,NGKEURI,NGKIEE,NGKUN,NGKYEE,NI,NJAP,NJEUAEM,NJEUT,NJI,NJIEE,",
    "NJUEQ,NSHEE,NSHUT,NSIEEP,NSIEET,NSUM,NTEE,NTEUM,NTUU,NU,NYAM,NYET,NYI,NYUE,PAP,PEE,PEUTAE,",
    "PIP,PUQ,PUUT,RAEM,REN MUCH,REN OLD,RII,SAP,SAQ,SEUAEQ,SHEE,SHEUAE,SHEUX,SHII,SHOQ,SHU,SOT,",
    "SUAE,SUE,SUU,TAE,TEEEE,TEUAEN,TEUN,TEUT,TI,TOQ,TU,TUOT,WAP,WUAEN,YAEMMAE,YEN,YUOM,YUOP,YUWOQ;",
    "BAMUMbPHASE-E :A,FA,FAQ,FEE,FOM,FU CALL,FU I,FU REMEDY,FUE,FUET,GBET,GBEUX,GHAAMAE,GHET,",
    "GHEUAE,GHEUN,GHEUX,GHOM,I,KET,KEUAE,KEUX,KI,KO,KPEUX,KUET,KUOP,KUT,LAAM,LAP,LAQ,LEUAEM,LOM,",
    "LOON,LOOT,LOQ,LU,MA,MAE,MAEM,MAP,MAQ,MBEE,MBEUM,MEN,MFEUQ,MGBA,MGBEN,MI,MIEE,MON,MUAE,MVI,NA,",
    "NAE,NDAA MY HOUSE,NDAA SOFTNESS,NDAP,NDIAQ,NDIQ,NDUN,NGA,NGEUREUT,NGGEEEE,NGGEUAE,NGGEUAET,",
    "NGGUAESHAE NYAM,NGGUP,NGGURAE,NGKA,NGKAAMI,NGKEUAEM,NGKEUX,NGKUM,NGKUP,NGOP,NGOQ,NGUAE,",
    "NGUAET,NJAEMLI,NJEE,NJEE EPOCH,NJEUX,NKOM,NSHIEE,NSHUE,NSHUOP,NTAP,NTUM,NYI BETWEEN,",
    "NYI CLEAVER,NZAQ,NZUQ,O,PA PEOPLE,PA PLURAL,PAA,PAAM,PEEM,PEUT,PEUX,PI,PIEEQ,PIET,PO,POON,PU,",
    "PUAE,PUAQ,PUE,PUM,RAE,RAQ,REUX,RIMGBA,SAA,SEE,SET,SHEUAEQ,SHIQ,SHO,SHOQ,SOM,SUAEN,TAA,TAAQ,",
    "TAEN NTEUM,TAM,TAQ,TEN,TEU,TEUAEQ,TOO,TOON,TOQ,TUAE,TUM,TUMAE,VEE,VEUAE,VOM,WEUX,WUE,WUO,YAP,",
    "YEUAE,YEUAET,YEUM,YEUX,YIEE,YIT,YOQ COVER,YOQ SWIMMING,YUAEN,YUEQ,YUN,YUQ;BAMUMbPHASE-F :EE,",
    "FOM,KA,KEN,KET,KO,KPA,KU,KYEE,LA,LI,LOQ,M,MA,MBAA,MBEN,MEEEE,MO,NDAA,NGGA,NGKWAEN,NI,NJAEM,",
    "NJUAE,NSHA,NTEE,NU,NUAE,NYI,PEE,PEUX,PUAE,REE,REN,REUX,RIEE,RII,RU,SAMBA,SEUX,SHII,SHO,SHU,",
    "SI,SUU,TAA,TAE,TET,U,VUEQ,WA,WUE,YA,YOQ;BASSA VAH COMBINING :HIGH T!,HIGH-LOW T!,LOW T!,",
    "LOW-MID T!,MID T!;BASSA VAHb:A,BA,CE,DHII,DO,E,EE,ENNI,FA,GAH,GBU,HWAH,I,JO,KA,KPAH,MBE,O,OO,",
    "PA,SE,TO,U,UWU,VU,WA,WADDA,YEIN,YIE,ZO;BHAIKSUKI :DANDA,l DANDA,GAP FILLER-1,GAP FILLER-2,",
    "HUNDREDS UNITn,WORD SEPARATOR;BHAIKSUKI.:&,FIVE,_,NINE,!,@,SIX,r,|,ZERO;BHAIKSUKIb:A,AA,AI,",
    "AU,BA,BHA,CA,CHA,DA,DDA,DDHA,DHA,E,GA,GHA,HA,I,II,JA,JHA,KA,KHA,LA,MA,NA,NGA,NNA,NYA,O,PA,",
    "PHA,RA,SA,SHA,SSA,TA,THA,TTA,TTHA,U,UU,VA,VOCALIC L,VOCALIC R,VOCALIC RR,YA;",
    "BHAIKSUKI NUMBER :&,&Y,FIFTY,FIVE,FORTY,_,NINE,NINETY,!,@,@TY,SIX,SIXTY,TEN,THIRTY,r,TWENTY,",
    "|;BHAIKSUKId :ANUSVARA,AVAGRAHA,CANDRABINDU,VIRAMA,VISARGA;BHAIKSUKI VOWELd :AA,AI,AU,E,I,II,",
    "O,U,UU,VOCALIC L,VOCALIC R,VOCALIC RR;BRAHMI :DANDA,l DANDA,VIRAMA;BRAHMI.:&,FIVE,_,NINE,!,@,",
    "SIX,r,|,ZERO;BRAHMIb:A,AA,AI,AU,BA,BHA,CA,CHA,DA,DDA,DDHA,DHA,E,GA,GHA,HA,I,II,JA,JHA,KA,KHA,",
    "LA,LLA,MA,NA,NGA,NNA,NYA,O,PA,PHA,RA,SA,SHA,SSA,TA,THA,TTA,TTHA,U,UU,VA,YA;",
    "BRAHMIbOLD TAMIL :LLA,LLLA,NNNA,RRA,SHORT E,SHORT O;BRAHMIbVOCALIC :L,LL,R,RR;",
    "BRAHMI NUMBER :&,&Y,FIFTY,FIVE,FORTY,_,JOINER,NINE,NINETY,!,!w,!t,@,@TY,SIX,SIXTY,TEN,THIRTY,",
    "r,TWENTY,|;BRAHMI PUNCTUATION :CRESCENT BAR,%,l %,LINE,LOTUS;BRAHMId :ANUSVARA,CANDRABINDU,",
    "JIHVAMULIYA,OLD TAMIL VIRAMA,UPADHMANIYA,VISARGA;BRAHMI VOWELd :AA,AI,AU,BHATTIPROLU AA,E,I,",
    "II,O,OLD TAMIL SHORT E,OLD TAMIL SHORT O,U,UU;BRAHMI VOWELd VOCALIC :L,LL,R,RR;",
    "CANADIAN SYLLABICS :SPA,SPE,SPI,SPO;CANADIAN SYLLABICS NATTILIK :HA,HAA,HI,HII,HO,HOO,SHRA,",
    "SHRAA,SHRI,SHRII,SHRO,SHROO;CARIANb:A,A2,B,C-18,C-39,D,D2,E,E2,G,G2,I,II,K,K2,L,LD,LD2,M,MB,",
    "MB2~4,N,ND,NG,NN,O,P,P2,Q,R,RR,S,SH,SH2,SS,ST,ST2,T,TT,TT2,U,UU,UUU,UUU2,UUU3,UUUU,X;",
    "CAUCASIAN ALBANIANb:ALT,AOR,BET,CAR,CAYN,CHA,CHAT,CHI,CHOY,CYAW,CYAY,DAT,DYAN,DZAY,DZYAY,EB,",
    "EYN,FAM,GHEYS,GIM,HEYT,INYA,IRB,IWN,JAYN,JHOX,KAR,KIW,LAN,LYIT,MAQ,NOWC,ON,PEN,PIWR,QAR,QAY,",
    "RAT,SEYK,SHA,SHAK,SHOY,TAS,TIWR,TYAY,VEYZ,XEYN,YAYD,YOWD,ZARL,ZHA,ZHIL;CHAKMA :AUn,DANDA,",
    "l DANDA,MAAYYAA,On,QUESTIONn,SECTIONn,VIRAMA;CHAKMA.:&,FIVE,_,NINE,!,@,SIX,r,|,ZERO;",
    "CHAKMAb:AA,BAA,BHAA,CAA,CHAA,DAA,DDAA,DDHAA,DHAA,E,GAA,GHAA,HAA,I,JAA,JHAA,KAA,KHAA,LAA,LHAA,",
    "MAA,NAA,NGAA,NNAA,NYAA,PAA,PHAA,RAA,SAA,TAA,THAA,TTAA,TTHAA,U,VAA,WAA,YAA,YYAA;",
    "CHAKMAd :ANUSVARA,CANDRABINDU,VISARGA;CHAKMA VOWELd :A,AA,AI,AU,E,EI,I,II,O,OI,U,UU;",
    "CHORASMIANb:ALEPH,AYIN,BETH,CURLED WAW,DALETH,GIMEL,HE,HETH,KAPH,LAMEDH,MEM,NUN,PE,RESH,",
    "SAMEKH,SHIN,m ALEPH,TAW,WAW,YODH,ZAYIN;CHORASMIAN NUMBER :_,!,!w,TEN,r,TWENTY,|;",
    "COMBINING GLAGOLITICb:AZU,BIG YUS,BUKY,CHRIVI,DJERVI,DOBRO,FITA,FRITU,GLAGOLI,HERU,I,p IZHE,",
    "IOTATED BIG YUS,IOTATED m YUS,IZHE,KAKO,LJUDIJE,MYSLITE,NASHI,ONU,POKOJI,RITSI,SHA,SHTA,",
    "SLOVO,m YUS,TSI,TVRIDO,UKU,VEDE,YATI,YERI,YERU,YESTU,YO,YU,ZEMLJA,ZHIVETE;",
    "COMBINING GRANTHA.:FIVE,_,!,SIX,r,|,ZERO;COMBINING GRANTHAb:A,KA,NA,PA,VI;",
    "COMBINING OLD PERMICb:AN,DOI,NENOE,SII,ZATA;COPTIC EPACT.:&,FIVE,_,NINE,!,@,SIX,r,|;",
    "COPTIC EPACT NUMBER :&w,&Y,FIFTY,FIVEw,FORTY,_w,NINEw,NINETY,!w,@w,@TY,SIXw,SIXTY,TEN,THIRTY,",
    "rw,TWENTY,|w;CUNEIFORM NUMERICd :ELAMITE FIFTY,ELAMITE FORTY,ELAMITE ! THIRD,",
    "ELAMITE | THIRDS,NIGIDAESH,NIGIDAMIN,NINE ASH,NINE DISH,NINE GESH2,NINE SHAR2,NINE U,",
    "NINE U VARIANTc,OLD ASSYRIAN ! QUARTER,OLD ASSYRIAN ! SIXTH,SHAR2<GAL^DISH,SHAR2<GAL^MIN;",
    "CUNEIFORM NUMERICd & :ASH,DISH,GESH2,SHAR2,U,U VARIANTc,VARIANTc USSU,VARIANTc USSU3;",
    "CUNEIFORM NUMERICd FIVE :ASH,ASH TENU,BAN2,BAN2 VARIANTc,BURU,DISH,GESH2,GESHU,SHAR2,SHARU,",
    "SIXTHS DISH,U,U VARIANTc;CUNEIFORM NUMERICd _ :ASH,ASH TENU,BAN2,BAN2 VARIANTc,BURU,DISH,",
    "GESH2,GESHU,SHAR2,SHARU,U,U VARIANTc;CUNEIFORM NUMERICd _ VARIANTc :LIMMU,LIMMU A,LIMMU B,",
    "LIMMU4;CUNEIFORM NUMERICd NINE VARIANTc :ILIMMU,ILIMMU A,ILIMMU3,ILIMMU4;",
    "CUNEIFORM NUMERICd ! :BAN2,BURU,&H ASH,ESHE3,GESH2,GESHU,HALF GUR,QUARTER ASH,QUARTER GUR,",
    "SHARU,THIRD DISH,THIRD VARIANTc A;CUNEIFORM NUMERICd @ :ASH,DISH,GESH2,SHAR2,U,U VARIANTc,",
    "VARIANTc IMIN A,VARIANTc IMIN B,VARIANTc IMIN3;CUNEIFORM NUMERICd SIX :ASH,ASH TENU,DISH,",
    "GESH2,SHAR2,U,U VARIANTc,VARIANTc ASH9;CUNEIFORM NUMERICd r :ASH,ASH TENU,BAN2,BURU,",
    "BURU VARIANTc,DISH,GESH2,GESHU,SHAR2,SHAR2 VARIANTc,SHARU,SHARU VARIANTc,VARIANTc ESH16,",
    "VARIANTc ESH21;CUNEIFORM NUMERICd | :ASH,ASH TENU,BAN2,BURU,ESHE3,GESH2,GESHU,SHAR2,SHARU,",
    "THIRDS DISH,THIRDS VARIANTc A;CUNEIFORM PUNCTUATIONd :DIAGONAL COLON,DIAGONAL QUADCOLON,",
    "DIAGONAL TRICOLON,OLD ASSYRIAN WORD DIVIDER,u COLON;CUNEIFORMd :A,A2,AB,AB GUNU,AB2,AD,",
    "AD<ESH2,AK,AK<ERIN2,AK<SHITA^GISH,AL,ALAN,ALEPH,AMAR,AMAR<KUG,AMAR<SHE,AN,AN OVER AN,",
    "AN^NAGA OPPOSING AN^NAGA,AN^NAGA =D,AN r TIMES,ANSHE,APIN,ARAD,ARAD<KUR,ARKAB,ASAL2,ASH,",
    "ASH KABA TENU,ASH ZIDA TENU,ASH2,ASHGAB,BA,BAD,BAD<DISH TENU,BAG3,BAHAR2,BAL,BAL OVER BAL,",
    "BALAG,BAR,BARA2,BI,BU,BU CROSSING BU,BULUG,BULUG OVER BULUG,BUR,BUR2,DA,DA<TAK4,DAG,DAG<KUR,",
    "DAG3,DAM,DAR,DARA3,DARA4,DI,DIB,DIM,DIM2,DIM2<UD,DIN,DIN KASKAL U GUNU DISH,DISH,DISH^SHU,DU,",
    "DU GUNU,DU OVER DU,DU SHESHIG,DUB,DUB<ESH2,DUB<SHE,DUB2,DUG,DUGUD,DUH,DUN,DUN3,DUN3 GUNU,",
    "DUN3 GUNU GUNU,DUN4,DUR2,E,E OVER E NUN OVER NUN,E<PAP,E2,EDIN,EGIR,EL,EN,EN CROSSING EN,",
    "EN OPPOSING EN,EN =D,EREN,ERIN2,ERIN2 X,ESH2,ESH2 CROSSING ESH2,EZEN,GA,GA GUNU,GA2,",
    "GA2 OVER GA2,GABA,GABA CROSSING GABA,GABA ROTATED NINETY DEGREES,GAD,",
    "GAD OVER GAD GAR OVER GAR,GAL,GAL GAD OVER GAD GAR OVER GAR,GALAM,GAM,GAN,GAN2,",
    "GAN2 CROSSING GAN2,GAN2 OVER GAN2,GAN2 TENU,GAR,GAR3,GASHAN,GE22,GESHTIN,GESHTIN<KUR,",
    "GESHTIN<U,GI,GI CROSSING GI,GI<E,GI<U,GI4,GI4 CROSSING GI4,GI4 OVER GI4,GIDIM,GIG,GIR2,",
    "GIR2 GUNU,GIR3,GISAL,GISH,GISH CROSSING GISH,GISH TENU,GU,GU CROSSING GU,GU2,GU2 GUNU,GUD,",
    "GUD OVER GUD LUGAL,GUD^GISH<TAK4,GUD<A^KUR,GUD<KUR,GUL,GUM,GUM<SHE,GUR,GUR7,GURUN,GURUSH,HA,",
    "HA GUNU,HA TENU,HA TENU GUNU,HAL,HI,HU,HUB2,HUL2,HUSH,I,I A,IB,IDIM,IDIM OVER IDIM BUR,",
    "IDIM OVER IDIM =D,IG,IGI,IGI DIB,IGI GUNU,IGI OVER IGI SHIR OVER SHIR UD OVER UD,IGI RI,IL,",
    "IL<GAN2 TENU,IL2,IM,IM CROSSING IM,IM OPPOSING IM,IM =D,IM<TAK4,IMIN,IN,IR,ISH,KA,KA2,",
    "KA2 CROSSING KA2,KAB,KAD2~5,KAD5 OVER KAD5,KAK,KAK<IGI GUNU,KAL,KAL CROSSING KAL,KAL<BAD,",
    "KAM2,KAM4,KAP ELAMITE,KASKAL,KASKAL LAGAB<U OVER LAGAB<U,",
    "KASKAL OVER KASKAL LAGAB<U OVER LAGAB<U,KESH2,KI,KID,KIN,KISAL,KISH,KISIM5,",
    "KISIM5 OVER KISIM5,KU,KU OVER HI<ASH2 KU OVER HI<ASH2,KU3,KU4,KU4 VARIANTc,KU7,KUL,KUL GUNU,",
    "KUN,KUR,KUR OPPOSING KUR,KUSHU2,KWU318,LA,LAGAB,LAGAB =D,LAGAR,LAHSHU,LAK-003,LAK-021,",
    "LAK-025,LAK-030,LAK-050,LAK-051,LAK-062,LAK-079 OVER LAK-079 GUNU,LAK-080,",
    "LAK-081 OVER LAK-081,LAK-092,LAK-130,LAK-142,LAK-210,LAK-219,LAK-220,LAK-225,LAK-228,LAK-238,",
    "LAK-265,LAK-266,LAK-343,LAK-347,LAK-348,LAK-383,LAK-384,LAK-390,LAK-441,LAK-449,LAK-450,",
    "LAK-457,LAK-470,LAK-483,LAK-490,LAK-492,LAK-493,LAK-495,LAK-550,LAK-608,LAK-617,LAK-636,",
    "LAK-648,LAK-724,LAK-749,LAL,LAL<LAL,LAM,LAM<KUR,LAM<KUR^RU,LI,LIL,LIMMU2,LISH,LU,LU<BAD,LU2,",
    "LU3,LUGAL,LUGAL OPPOSING LUGAL,LUGAL OVER LUGAL,LUGAL SHESHIG,LUH,LUL,LUM,LUM OVER LUM,",
    "LUM OVER LUM GAR OVER GAR,MA,MA GUNU,MA<TAK4,MA2,MAH,MAR,MASH,MASH2,ME,MES,MESH,MI,MI^ZA7,",
    "MIN,MU,MU OVER MU,MUG,MUG GUNU,MUNSUB,MURGU2,MUSH,MUSH CROSSING MUSH,MUSH OVER MUSH,MUSH3,",
    "MUSH3 GUNU,NA,NA2,NA4,NAGA,NAGA INVERTED,NAGA OPPOSING NAGA,NAGA<SHU TENU,NAGAR,NAM,",
    "NAM NUTILLU,NAM2,NE,NE SHESHIG,NE<A,NE<UD,NI,NI<E,NI2,NIM,NIM<GAN2 TENU,NIM<GAR^GAN2 TENU,",
    "NIN,NIN9,NINDA2,NISAG,NU,NU11,NU11 ROTATED NINETY DEGREES,NUN,NUN CROSSING NUN,",
    "NUN CROSSING NUN LAGAR OVER LAGAR,NUN OVER NUN,NUN TENU,NUNUZ,PA,PAD,PAN,PAP,PESH2,",
    "PESH2 ASTERISK,PI,PI CROSSING PI,PIR2,PIRIG,PIRIG OPPOSING PIRIG,RA,RAB,RI,RU,SA,SAG,",
    "SAG GUNU,SAG GUNU<HA,SAG NUTILLU,SAG OVER SAG,SAL,SAL LAGAB<ASH2,SANGA2,SAR,SHA,SHA3,SHA6,",
    "SHA6 TENU,SHAB6,SHAR2,SHE,SHEG9,SHEN,SHESH,SHESH2,SHESHLAM,SHID,SHID<A,SHID<IM,SHIM,SHINIG,",
    "SHIR,SHIR OVER SHIR BUR OVER BUR,SHIR TENU,SHITA,SHU,SHU OVER INVERTED SHU,SHU2,SHU2^DUG<NI,",
    "SHU2^E2<AN,SHUBUR,SI,SI GUNU,SI<TAK4,SIG,SIG4,SIG4 OVER SIG4 SHU2,SIK2,SILA3,SU,SU OVER SU,",
    "SUD,SUD2,SUHUR,SUM,SUMASH,SUR,SUR9,TA,TA ASTERISK,TA GUNU,TA<HI,TA<MI,TAB,",
    "TAB OVER TAB NI OVER NI DISH OVER DISH,TAB =D,TAG,TAK4,TAK4^SAG,TAR,TE,TE GUNU,TI,TI TENU,",
    "TI2,TIL,TIR,TIR OVER TIR,TIR OVER TIR GAD OVER GAD GAR OVER GAR,TIR<TAK4,TU,TUG2,TUK,TUM,",
    "TUM<GAN2 TENU,TUM<r DISH,TUR,TUR OVER TUR ZA OVER ZA,U,U GUD,U U,U U U,U2,UB,UD,UD GUNU,",
    "UD KUSHU2,UD SHESHIG,UD SHESHIG<BAD,UDUG,UM,UMBIN,UMUM,UMUM<KASKAL,UMUM<PA,UN,UN GUNU,UR,",
    "UR CROSSING UR,UR SHESHIG,UR2,UR2 INVERTED,UR4,URI,URI3,URU,URUDA,URUDA<U,USH,USH2,USHUMX,",
    "USHX,UTUKI,UZ3,UZ3<KASKAL,UZU,ZA,ZA =D<KUR,ZA TENU,ZA7,ZAG,ZAMX,ZE2,ZI,ZI OVER ZI,ZI3,ZIB,",
    "ZIB KABA TENU,ZIG,ZIZ2,ZU,ZU OVER ZU^SAR,ZU5,ZU5<A,ZU5<r DISH TENU,ZUBUR,ZUM;CUNEIFORMd A<:A,",
    "BAD,GAN2 TENU,HA,IGI,LAGAR GUNU,MUSH,SAG;CUNEIFORMd AB<:ASH2,DUN3 GUNU,GAL,GAN2 TENU,HA,",
    "IGI GUNU,IMIN,LAGAB,NUN,NUN TENU,SHESH,SHU2,U^U^U;CUNEIFORMd AB2<:A,BALAG,GAN2 TENU,ME^EN,",
    "SHA3,TAK4;CUNEIFORMd AL<:AL,DIM2,GISH,HA,KAD3,KI,SHE,USH;CUNEIFORMd ASH OVER ASH :OVER ASH,",
    "OVER ASH CROSSING ASH OVER ASH OVER ASH,TUG2 OVER TUG2 TUG2 OVER TUG2 PAP;",
    "CUNEIFORMd BAHAR2<:AB2,NI,ZA;CUNEIFORMd BI<:A,GAR,IGI GUNU;CUNEIFORMd BU OVER BU :AB,",
    "TIMES NA2,UN;CUNEIFORMd DAG KISIM5<:A^MASH,AMAR,BALAG,BI,GA,GA^MASH,GI,GIR2,GUD,HA,IR,IR^LU,",
    "KAK,LA,LU,LU^MASH2,LUM,NE,PAP^PAP,SI,TAK4,U2^GIR2,U2^MASH,USH;CUNEIFORMd DIM<:IGI,SHE,U U U;",
    "CUNEIFORMd DUG<:ANSHE,ASH,ASH AT s,DIN,DUN,ERIN2,GA,GI,GIR2 GUNU,GISH,HA,HI,IGI GUNU,KASKAL,",
    "KUR,KUSHU2,KUSHU2^KASKAL,LAK-020,LAM,LAM<KUR,LUH^GISH,MASH,MES,MI,NI,PI,SHE,SI GUNU;",
    "CUNEIFORMd E2<:A^HA^DA,GAR,KUR,MI,PAP,SAL,SHE,U;CUNEIFORMd EN<:GAN2,GAN2 TENU,ME;",
    "CUNEIFORMd EZEN SHESHIG<:ASH,HI,IGI GUNU,LA,LAL,ME,MES,SU;CUNEIFORMd EZEN<:A,A^LAL,A^LAL<LAL,",
    "AN,BAD,DUN3 GUNU,DUN3 GUNU GUNU,GUD,HA,HA GUNU,IGI GUNU,KASKAL,KASKAL =D,KU3,LA,LAL<LAL,LI,",
    "LU,SHE,SU,U2,UD;CUNEIFORMd GA2<:A^DA^HA,A^HA,A^IGI,AB2 TENU^TAB,AN,AN^KAK^A,ASH,ASH2,",
    "ASH2^GAL,BAD,BAHAR2,BAR^RA,BUR,BUR^RA,DA,DI,DIM GUNU,DIM<SHE,DUB,DUG<IGI GUNU,DUG<KASKAL,EL,",
    "EL^LA,EN,EN<GAN2 TENU,EREN,GA,GAN2 TENU,GAR,GAR^DI,GAR^NE,GI,GI4,GI4^A,GIR2^SU,HA^A,",
    "HA^LU^ESH2,HAL,HAL^LA,HI^LI,HUB2,IGI GUNU,ISH^HU^ASH,KAK,KASKAL,KID,KID^LAL,KU3^AN,",
    "KUSHU2^KASKAL,LA,LAM,LAM<KUR,LUH,ME^EN,MI,MUSH,NE,NE^E2,NE^GI,NUN,NUN OVER NUN,PA,SAL,SAR,",
    "SHE,SHE^TUR,SHID,SHIM,SUM,TAK4,U,UD,UD^DU,ZIZ2;CUNEIFORMd GIR3<:A^IGI,GAN2 TENU,IGI,LU^IGI,",
    "PA;CUNEIFORMd GISH<:BAD,GISH CROSSING GISH,TAK4;CUNEIFORMd GU2<:IGI GUNU,KAK,KAK<IGI GUNU,",
    "NUN,SAL^TUG2;CUNEIFORMd HI<:ASH,ASH OVER HI<ASH,ASH2,BAD,DISH,GAD,KIN,NUN,SHE,U;",
    "CUNEIFORMd HUB2<:AN,HAL,KASKAL,LISH,UD;CUNEIFORMd KA<:A,AD,AD^KU3,ANSHE,ASH2,ASH3,BAD,BALAG,",
    "BAR,BI,BU,ERIN2,ESH2,GA,GAL,GAN2 TENU,GAR,GAR^SHA3^A,GI,GIR2,GISH,GISH CROSSING GISH,",
    "GISH^SAR,GU,GUD,GUR7,HI<ASH2,IGI,IM,KA,KAK,KI,KID,LI,LU,LUM,ME,ME^DU,ME^GI,ME^TE,MI,MI^NUNUZ,",
    "NE,NUN,PA,PI,RU,SA,SAR,SHA,SHE,SHID,SHU,SHUL,SIG,SUHUR,TAR,TU,U,U U U,U2,UD,UMUM<PA,UR,UR2,",
    "USH,ZI;CUNEIFORMd KI<:BAD,U,UD;CUNEIFORMd LAGAB<:A,A^DA^HA,A^GAR,A^LAL,AL,AN,ASH ZIDA TENU,",
    "BAD,BI,DAR,EN,GA,GAR,GI,GUD,GUD^GUD,HA,HAL,HI<NUN,IGI GUNU,IM,IM^HA,IM^LU,KI,KIN,KU3,KUL,",
    "KUL^HI^A,LAGAB,LISH,LU,LUL,ME,ME^EN,MUSH,NE,SHE^SUM,SHITA^GISH^ERIN2,SHITA^GISH TENU,SHU2,",
    "SHU2^SHU2,SUM,TAG,TAK4,TE^A^SU^NA,U,U^A,U^U^U,U2^ASH,UD,USH,ZU OVER ZU;",
    "CUNEIFORMd LAGAR :GUNU,GUNU OVER LAGAR GUNU SHE,TIMES SHE,TIMES SHE^SUM;",
    "CUNEIFORMd LAK-449<:GU,IGI,PAP^LU3,PAP^PAP^LU3,U2^BA;CUNEIFORMd LAK-617<:ASH,BAD,",
    "DUN3 GUNU GUNU,KU3,LA,TAR,TE,U2,UD,URUDA;CUNEIFORMd LAK-648<:DUB,GA,IGI,IGI GUNU,NI,",
    "PAP^PAP^LU3,SHESH^KI,UD,URUDA;CUNEIFORMd LU2 :CROSSING LU2,GUNU<ASH,OPPOSING LU2,SHESHIG,",
    "SHESHIG<BAD,=D,TENU;CUNEIFORMd LU2<:AL,BAD,DISH,ESH2,ESH2^LAL,ESH2 TENU,GAN2 TENU,HAL,HI<BAD,",
    "IM,KAD2,KAD3,KAD3^ASH,KI,LA^ASH,LAGAB,ME^EN,NE,NU,PAP,PAP^PAP^LU3,SHU,SI^ASH,SIK2^BU,TAK4,",
    "TUG2;CUNEIFORMd MUSH OVER MUSH<:A^NA,GA,KAK;CUNEIFORMd MUSH<:A,KUR,ZA;CUNEIFORMd MUSH3<:A,",
    "A^DI,DI,ZA;CUNEIFORMd NINDA2<:AN,ASH,ASH^ASH,BAL,DIM GUNU,GI,GISH,GUD,GUL,HI,KESH2,LAK-050,",
    "MASH,ME^GAN2 TENU,NE,NUN,PAP^PAP,SHE,SHE^A AN,SHE^ASH,SHE^ASH^ASH,U,U^U,U2^ASH,URUDA,USH;",
    "CUNEIFORMd NUN LAGAR<:GAR,MASH,SAL,SAL OVER NUN LAGAR<SAL,USH;CUNEIFORMd NUNUZ AB2<:ASHGAB,",
    "BI,DUG,GUD,IGI GUNU,KAD3,LA,NE,SILA3,U2;CUNEIFORMd NUNUZ KISIM5<:BI,BI U;CUNEIFORMd PI<:A,AB,",
    "BI,BU,E,I,IB,U,U2;CUNEIFORMd PIRIG<:KAL,UD,ZA;CUNEIFORMd SAG<:A,DU,DUB,EN,HA,IGI GUNU,KAK,",
    "KUR,LUM,MI,NUN,SAL,SHE AT s,SHID,TAB,TAK4,U2,UB,UM,UR,USH;CUNEIFORMd SHA3<:A,BAD,GISH,NE,",
    "SHU2,TUR,U,U^A;CUNEIFORMd SHE :HU,OVER SHE,OVER SHE GAD OVER GAD GAR OVER GAR,",
    "OVER SHE TAB OVER TAB GAR OVER GAR,PLUS HUB2,PLUS NAM2,PLUS SAR;CUNEIFORMd SHIM<:A,BAL,BULUG,",
    "DIN,GAR,IGI,IGI GUNU,KUSHU2,LUL,MUG,SAL;CUNEIFORMd TAG<:BI,GUD,SHE,SHU,TUG2,UD;",
    "CUNEIFORMd U OVER U :PA OVER PA GAR OVER GAR,SUR OVER SUR,U REVERSED OVER U REVERSED;",
    "CUNEIFORMd UD<:BAD,MI,U^U^U,U^U^U GUNU;CUNEIFORMd UM<:LAGAB,ME,ME^DA,SHA3,U;",
    "CUNEIFORMd UR2<:A^HA,A^NA,AL,HA,NUN,U2,U2^ASH,U2^BI,UD;CUNEIFORMd URU<:A,ASHGAB,BAR,DARA3,",
    "DUN,GA,GAL,GAN2 TENU,GAR,GU,HA,IGI,IM,ISH,KI,LAK-668,LU3,LUM,MIN,PA,SHE,SIG4,TU,U^GUD,UD,",
    "URUDA;CUNEIFORMd USH<:A,KU,KUR,TAK4;CYPRIOT SYLLABLE :A,E,I,JA,JO,KA,KE,KI,KO,KU,LA,LE,LI,LO,",
    "LU,MA,ME,MI,MO,MU,NA,NE,NI,NO,NU,O,PA,PE,PI,PO,PU,RA,RE,RI,RO,RU,SA,SE,SI,SO,SU,TA,TE,TI,TO,",
    "TU,U,WA,WE,WI,WO,XA,XE,ZA,ZO;CYPRO-MINOANd :CM001,CM002,CM004~013,CM012B,CM015,CM017,CM019,",
    "CM021,CM023~030,CM033~041,CM044,CM046,CM047,CM049~056,CM058~064,CM066~076,CM075B,CM078~092,",
    "CM094~105,CM107~110,CM112,CM114,CM301,CM302;DESERET+b:AY,BEE,CHEE,DEE,EF,EL,EM,EN,ENG,ER,ES,",
    "ESH,ETH,EW,GAY,H,JEE,KAY,LONG A,LONG AH,LONG E,LONG I,LONG O,LONG OO,OI,OW,PEE,TEE,THEE,VEE,",
    "WU,YEE,ZEE,ZHEE;DESERET+bSHORT :A,AH,E,I,O,OO;DESERET mb:AY,BEE,CHEE,DEE,EF,EL,EM,EN,ENG,ER,",
    "ES,ESH,ETH,EW,GAY,H,JEE,KAY,OI,OW,PEE,TEE,THEE,VEE,WU,YEE,ZEE,ZHEE;DESERET mbLONG :A,AH,E,I,",
    "O,OO;DESERET mbSHORT :A,AH,E,I,O,OO;DIVES AKURU :l DANDA,END OF TEXTn,GAP FILLER,p RA,",
    "MEDIAL RA,MEDIAL YA,PREFIXED NASALd,VIRAMA;DIVES AKURU.:&,FIVE,_,NINE,!,@,SIX,r,|,ZERO;",
    "DIVES AKURUb:A,AA,BA,BHA,CA,CHA,DA,DDA,DDHA,DHA,E,GA,GHA,HA,I,II,JA,KA,KHA,LA,LLA,MA,NA,NGA,",
    "NNA,NYA,O,PA,PHA,RA,SA,SHA,SSA,TA,THA,TTA,U,UU,VA,YA,YYA,ZA;DIVES AKURUd :ANUSVARA,",
    "CANDRABINDU,HALANTA,NUKTA;DIVES AKURU VOWELd :AA,AI,E,I,II,O,U,UU;DOGRAb:A,AA,AI,AU,BA,BHA,",
    "CA,CHA,DA,DDA,DDHA,DHA,E,GA,GHA,HA,I,II,JA,JHA,KA,KHA,LA,MA,NA,NGA,NNA,NYA,O,PA,PHA,RA,RRA,",
    "SA,SHA,SSA,TA,THA,TTA,TTHA,U,UU,VA,YA;DOGRAd :ANUSVARA,NUKTA,VIRAMA,VISARGA;DOGRA VOWELd :AA,",
    "AI,AU,E,I,II,O,U,UU,VOCALIC R,VOCALIC RR;DUPLOYAN :ln,PUNCTUATION CHINOOK FULL STOP,",
    "SIGN OaCROSS,THICKbSELECTOR;DUPLOYAN AFFIX :s v SECANT,MID v SECANT,MID u SECANT,i v SECANT;",
    "DUPLOYAN AFFIX ATTACHED :E [,I [,s-TO-i SECANT,SECANT,TAIL,TANGENT,TANGENT [;",
    "DUPLOYAN AFFIX HIGH :ACUTE,#,%,GRAVE,LINE,LONG GRAVE,TIGHT ACUTE,u,u SECANT,WAVE;",
    "DUPLOYAN AFFIX LOW :ACUTE,ARROW,#,%,GRAVE,LINE,LONG GRAVE,TIGHT ACUTE,u,u SECANT,WAVE;",
    "DUPLOYANb:A,AOU,B,D,D S,DH,E,EE,EU,F,F N,G,G R S,H,HL,I,IE,J,J M,J M S,J N,J N S,J S,J Sa%,",
    "Ja%,Ja%S INSIDE ANDf,K,K M,K R S,KK,L,LH,LONG I,LONG U,M,M N,M N S,M S,Ma%,N,N M,N M S,N S,",
    "Na%,NASAL A,NASAL I,NASAL O,NASAL U,O,OA,OOH,OU,OW,P,P N,PERNIN AM,PERNIN AN,R,R S,RH,",
    "ROMANIAN I,ROMANIAN U,S,SHORT I,T,T R S,T S,TH,U,U N,UH,UI,V,VOCALIC M,W,W R,WA,WEI,WH,WI,WO,",
    "WOW,X,XW,YE;DUPLOYANbS :J,J S,K,K R,M,N,P,P R,S,T,T R,WITH %,WITH %j;DUPLOYANbSLOAN :AN,DH,",
    "EE,EH,EN,J,ON,OW,U;EGYPTIAN HIEROGLYPH :A001~070,A005A,A006A,A006B,A014A,A017A,A032A,A040A,",
    "A042A,A043A,A045A,AA001~032,AA007A,AA007B,B001~009,B005A,BEGIN SEGMENT,C001~024,C002A,C002B,",
    "C002C,C010A,D001~067,D008A,D027A,D031A,D034A,D046A,D048A,D050A,D050B,D050C,D050D,D050E,D050F,",
    "D050G,D050H,D050I,D052A,D054A,D067A,D067B,D067C,D067D,D067E,D067F,D067G,D067H,E001~034,E008A,",
    "E009A,E016A,E017A,E020A,E028A,E034A,E036~038,END SEGMENT,F001A,F001~053,F013A,F021A,F031A,",
    "F037A,F038A,F045A,F046A,F047A,F051A,F051B,F051C,G001~054,G006A,G007A,G007B,G011A,G020A,G026A,",
    "G036A,G037A,G043A,G045A,H001~008,H006A,v JOINER,I001~015,I005A,I009A,I010A,I011A,K001~008,",
    "L001~008,L002A,L006A,M001A,M001B,M001~044,M003A,M010A,M012A,M012B,M012C,M012D,M012E,M012F,",
    "M012G,M012H,M015A,M016A,M017A,M022A,M024A,M028A,M031A,M033A,M033B,M040A,N001~042,N018A,N018B,",
    "N025A,N033A,N034A,N035A,N037A,NL001~020,NL005A,NL017A,NU001~022,NU010A,NU011A,NU018A,NU022A,",
    "O001A,O001~051,O005A,O006A,O006B,O006C,O006D,O006E,O006F,O010A,O010B,O010C,O019A,O020A,O024A,",
    "O025A,O029A,O030A,O033A,O036A,O036B,O036C,O036D,O050A,O050B,OVERLAY MIDDLE,P001A,P001~011,",
    "P003A,Q001~007,R001~029,R002A,R003A,R003B,R010A,R016A,S001~046,S002A,S006A,S014A,S014B,S017A,",
    "S026A,S026B,S035A,T001~036,T003A,T007A,T008A,T009A,T011A,T016A,T032A,T033A,U001~042,U006A,",
    "U006B,U023A,U029A,U032A,V001A,V001B,V001C,V001D,V001E,V001F,V001G,V001H,V001I,V001~040,V002A,",
    "V007A,V007B,V011A,V011B,V011C,V012A,V012B,V020A,V020B,V020C,V020D,V020E,V020F,V020G,V020H,",
    "V020I,V020J,V020K,V020L,V023A,V028A,V029A,V030A,V031A,V033A,V037A,V040A,u JOINER,W001~025,",
    "W003A,W009A,W010A,W014A,W017A,W018A,W024A,X001~008,X004A,X004B,X006A,X008A,Y001A,Y001~008,",
    "Z001~016,Z002A,Z002B,Z002C,Z002D,Z003A,Z003B,Z004A,Z005A,Z015A,Z015B,Z015C,Z015D,Z015E,Z015F,",
    "Z015G,Z015H,Z015I,Z016A,Z016B,Z016C,Z016D,Z016E,Z016F,Z016G,Z016H;",
    "EGYPTIAN HIEROGLYPH INSERT AT :BOTTOM END,BOTTOM START,TOP END,TOP START;ELBASANb:A,BE,CE,",
    "CHE,DE,DHE,E,EI,FE,GE,GHAMMA,GHE,GJE,HE,I,JE,KE,KHE,LE,LLE,ME,NA,NDE,NE,NJE,O,PE,QE,RE,RRE,",
    "SE,SHE,TE,THE,U,VE,XE,Y,ZE,ZHE;ELYMAICb:ALEPH,AYIN,BETH,DALETH,GIMEL,HE,HETH,KAPH,LAMEDH,MEM,",
    "NUN,PE,QOPH,RESH,SADHE,SAMEKH,SHIN,TAW,TETH,WAW,YODH,ZAYIN;ETHIOPIC SYLLABLE :HHWE,HHWEE,",
    "HHWI,HHYA,HHYAA,HHYE,HHYEE,HHYI,HHYO,HHYU;ETHIOPIC SYLLABLE GURAGE :BWEE,BWI,FWEE,FWI,GWE,",
    "GWEE,GWI,HHWA,KWE,KWEE,KWI,MWEE,MWI,PWEE,PWI,QWE,QWEE,QWI;GOTHICb:AHSA,AIHVUS,BAIRKAN,DAGS,",
    "EIS,FAIHU,GIBA,HAGL,HWAIR,IGGWS,IUJA,JER,KUSMA,LAGUS,MANNA,NAUTHS,NINEw,NINETY,OTHAL,",
    "PAIRTHRA,QAIRTHRA,RAIDA,SAUIL,TEIWS,THIUTH,URUS,WINJA;GRANTHA :AU LENGTHn,OM;GRANTHAb:A,AA,",
    "AI,AU,BA,BHA,CA,CHA,DA,DDA,DDHA,DHA,EE,GA,GHA,HA,I,II,JA,JHA,KA,KHA,LA,LLA,MA,NA,NGA,NNA,NYA,",
    "OO,PA,PHA,RA,SA,SHA,SSA,TA,THA,TTA,TTHA,U,UU,VA,VEDIC ANUSVARA,VEDIC l ANUSVARA,YA;",
    "GRANTHAbVOCALIC :L,LL,R,RR;GRANTHAd :ANUSVARA,AVAGRAHA,CANDRABINDU,COMBINING ANUSVARAf,NUKTA,",
    "PLUTA,VIRAMA,VISARGA;GRANTHA VOWELd :AA,AI,AU,EE,I,II,OO,U,UU;GRANTHA VOWELd VOCALIC :L,LL,R,",
    "RR;GREEK :AROURAd,ARTABEd,DRACHMAd,FIVE OBOLSd,_ OBOLSd,GRAMMAd,INDICTIONd,KYATHOS BASEd,",
    "LITRAd,METRETESd,OBOLd,! QUARTERd,OUNKIAd,SINUSOIDd,SYMBOL TAU RHO,TALENTd,r OBOLSd,",
    "r QUARTERSd,TRYBLION BASEd,| OBOLSd,| THIRDSd,XESTESd,YEARd,ZEROd;",
    "GREEK ACROPHONIC :CARYSTIAN FIVEw,CYRENAIC | DRACHMAS,DELPHIC FIVE MNAS,HERAEUM ! PLETHRON,",
    "MESSENIAN TEN,NAXIAN FIVEw,STRATIAN FIFTY MNAS;GREEK ACROPHONIC ATTIC :FIFTY,FIFTY STATERS,",
    "FIFTY TALENTS,FIFTYt,FIFTYt STATERS,FIVE,! DRACHMA,! HALF,!w STATERS,!w TALENTS,! QUARTER,",
    "!t STATERS,!t TALENTS,TEN MNAS,TEN STATERS,TEN TALENTS,TENt STATERS;",
    "GREEK ACROPHONIC ATTIC FIVE :HUNDRED,HUNDRED STATERS,HUNDRED TALENTS,STATERS,TALENTS,",
    "THOUSAND,THOUSAND TALENTS;GREEK ACROPHONIC EPIDAUREAN :FIVEw,|,| DRACHMAS;",
    "GREEK ACROPHONIC HERMIONIAN :FIFTY,!,TEN;GREEK ACROPHONIC THESPIAN :FIFTY,FIVEw,FIVEt,!,!w,",
    "!t,TEN,THIRTY,rw,|;GREEK ACROPHONIC TROEZENIAN :FIFTY,FIFTY ALTERNATEc,FIVE,FIVEw,TEN,",
    "TEN ALTERNATEc;GREEK ! HALF :SIGN,SIGN ALTERNATEc;GUNJALA GONDI :OM,SIGN ANUSVARA,",
    "SIGN VISARGA,VIRAMA;GUNJALA GONDI.:&,FIVE,_,NINE,!,@,SIX,r,|,ZERO;GUNJALA GONDIb:A,AA,AI,AU,",
    "BA,BHA,CA,CHA,DA,DDA,DDHA,DHA,EE,GA,GHA,HA,I,II,JA,JHA,KA,KHA,LA,LLA,MA,NA,NGA,OO,PA,PHA,RA,",
    "SA,TA,THA,TTA,TTHA,U,UU,VA,YA;GUNJALA GONDI VOWELd :AA,AI,AU,EE,I,II,OO,U,UU;",
    "HANIFI ROHINGYA.:&,FIVE,_,NINE,!,@,SIX,r,|,ZERO;HANIFI ROHINGYAb:A,BA,CA,DA,DDA,FA,GA,HA,JA,",
    "KA,KHA,KINNA WA,KINNA YA,LA,MA,NA,NGA,NYA,PA,RA,RRA,SA,SHA,TA,TTA,VA,WA,YA,ZA;",
    "HANIFI ROHINGYAn :NA KHONNA,SAKIN;HANIFI ROHINGYAd :HARBAHAY,TAHALA,TANA,TASSI;",
    "HANIFI ROHINGYA VOWEL :A,E,I,O,U;HATRANb:ALEPH,AYN,BETH,DALETH-RESH,GIMEL,HE,HETH,KAPH,",
    "LAMEDH,MEM,NUN,PE,QOPH,SADHE,SAMEKH,SHIN,TAW,TETH,WAW,YODH,ZAYN;HATRAN NUMBER :FIVE,!,!w,TEN,",
    "TWENTY;HENTAIGANAb:A-1~3,A-WO,E-2~6,HA-10,HA-11,HA-1~9,HE-1~7,HI-1~7,HO-1~8,HU-1~3,I-1~4,",
    "KA-10,KA-11,KA-1~9,KA-KE,KE-1~6,KI-1~8,KO-1~3,KO-KI,KU-1~7,MA-1~7,ME-1,ME-2,ME-MA,MI-1~7,",
    "MO-1~6,MU-1~4,N-MU-MO-1,N-MU-MO-2,NA-1~9,NE-1~6,NE-KO,NI-1~7,NI-TE,NO-1~5,NU-1~3,O-1~3,",
    "RA-1~4,RE-1~4,RI-1~7,RO-1~6,RU-1~6,SA-1~8,SE-1~5,SI-1~6,SO-1~7,SU-1~8,TA-1~4,TE-1~9,TI-1~7,",
    "TO-1~6,TO-RA,TU-1~4,TU-TO,U-1~5,WA-1~5,WE-1~4,WI-1~5,WO-1~7,YA-1~5,YA-YO,YO-1~6,YU-1~4;",
    "HIRAGANAbARCHAIC :WU,YE;HIRAGANAbm :WE,WI,WO;IMPERIAL ARAMAICb:ALEPH,AYIN,BETH,DALETH,GIMEL,",
    "HE,HETH,KAPH,LAMEDH,MEM,NUN,PE,QOPH,RESH,SADHE,SAMEKH,SHIN,TAW,TETH,WAW,YODH,ZAYIN;",
    "IMPERIAL ARAMAIC NUMBER :!,!w,!t,TEN,TENt,r,TWENTY,|;INDIC SIYAQ :ALTERNATE LAKHn,LAKHn,",
    "PLACEHOLDER,RUPEEn;INDIC SIYAQ FRACTION :! HALF,! QUARTER,r QUARTERS;",
    "INDIC SIYAQ NUMBER :ALTERNATE !,ALTERNATE TENt,ALTERNATE |,&,&w,&t,&Y,&Yt,FIFTY,FIFTYt,FIVE,",
    "FIVEw,FIVEt,FORTY,FORTYt,_,_w,_t,KAROR,KARORAN,LAKH,LAKHAN,NINE,NINEw,NINEt,NINETY,NINETYt,!,",
    "!w,!t,@,@w,@t,@TY,@TYt,SIX,SIXw,SIXt,SIXTY,SIXTYt,TEN,TENt,THIRTY,THIRTYt,r,rw,rt,TWENTY,",
    "TWENTYt,|,|w,|t;INDIC SIYAQ NUMBER PREFIXED :&,FIVE,_,NINE,!,@,SIX,r,|;",
    "INSCRIPTIONAL PAHLAVIb:ALEPH,BETH,DALETH,GIMEL,HE,HETH,KAPH,LAMEDH,MEM-QOPH,NUN,PE,SADHE,",
    "SAMEKH,SHIN,TAW,TETH,WAW-AYIN-RESH,YODH,ZAYIN;INSCRIPTIONAL PAHLAVI NUMBER :_,!,!w,!t,TEN,r,",
    "TWENTY,|;INSCRIPTIONAL PARTHIANb:ALEPH,AYIN,BETH,DALETH,GIMEL,HE,HETH,KAPH,LAMEDH,MEM,NUN,PE,",
    "QOPH,RESH,SADHE,SAMEKH,SHIN,TAW,TETH,WAW,YODH,ZAYIN;INSCRIPTIONAL PARTHIAN NUMBER :_,!,!w,!t,",
    "TEN,r,TWENTY,|;KAITHI :ABBREVIATIONd,DANDA,l DANDA,l SECTIONn,ENUMERATIONd,NUMBERd,NUMBERdf,",
    "SECTIONn;KAITHIb:A,AA,AI,AU,BA,BHA,CA,CHA,DA,DDA,DDDHA,DDHA,DHA,E,GA,GHA,HA,I,II,JA,JHA,KA,",
    "KHA,LA,MA,NA,NGA,NNA,NYA,O,PA,PHA,RA,RHA,SA,SHA,SSA,TA,THA,TTA,TTHA,U,UU,VA,YA;",
    "KAITHId :ANUSVARA,CANDRABINDU,NUKTA,VIRAMA,VISARGA;KAITHI VOWELd :AA,AI,AU,E,I,II,O,U,UU,",
    "VOCALIC R;KATAKANAbARCHAIC :E,WU,YE,YI;KATAKANAbMINNAN :T!-2~5,T!-7,T!-8;",
    "KATAKANAbMINNAN NASALIZED :T!-1~5,T!-7,T!-8;KATAKANAbm :N,WE,WI,WO;",
    "KHAROSHTHI :FRACTION ! HALF,VIRAMA,VOWEL LENGTHn;KHAROSHTHI.:_,!,r,|;KHAROSHTHIb:A,BA,BHA,CA,",
    "CHA,DA,DDA,DDHA,DHA,GA,GHA,HA,JA,KA,KHA,KKA,LA,MA,NA,NNA,NYA,PA,PHA,RA,SA,SHA,SSA,TA,THA,TTA,",
    "TTHA,TTTA,TTTHA,VA,VHA,YA,ZA;KHAROSHTHI NUMBER :!w,!t,TEN,TWENTY;KHAROSHTHI PUNCTUATION :#,",
    "CRESCENT BAR,DANDA,%,l DANDA,LINES,LOTUS,MANGALAM,m #;KHAROSHTHId :ANUSVARA,BARf,CAUDA,%j,",
    "l RINGj,VISARGA;KHAROSHTHI VOWELd :E,I,O,U,VOCALIC R;KHOJKI :ABBREVIATIONd,DANDA,l DANDA,",
    "l SECTIONn,SECTIONn,WORD SEPARATOR;KHOJKIb:A,AA,AI,AU,BA,BBA,BHA,CA,CHA,DA,DDA,DDDA,DDHA,DHA,",
    "E,GA,GGA,GHA,HA,I,JA,JJA,KA,KHA,LA,LLA,MA,NA,NGA,NNA,NYA,O,PA,PHA,RA,SA,TA,THA,TTA,TTHA,U,VA,",
    "YA;KHOJKId :ANUSVARA,NUKTA,SHADDA,SUKUN,VIRAMA;KHOJKI VOWELd :AA,AI,AU,E,I,II,O,U;",
    "KHUDAWADI.:&,FIVE,_,NINE,!,@,SIX,r,|,ZERO;KHUDAWADIb:A,AA,AI,AU,BA,BBA,BHA,CA,CHA,DA,DDA,",
    "DDDA,DDHA,DHA,E,GA,GGA,GHA,HA,I,II,JA,JHA,JJA,KA,KHA,LA,MA,NA,NGA,NNA,NYA,O,PA,PHA,RA,RRA,SA,",
    "SHA,TA,THA,TTA,TTHA,U,UU,VA,YA;KHUDAWADId :ANUSVARA,NUKTA,VIRAMA;KHUDAWADI VOWELd :AA,AI,AU,",
    "E,I,II,O,U,UU;LARGE ! :% OVER | %S PUNCTUATION,RING OVER | RINGS PUNCTUATION;",
    "LARGE | :%S OVER ! % PUNCTUATION,RINGS OVER ! RING PUNCTUATION;",
    "LATINb:INVERTED GLOTTAL STOPaCURL,RETROFLEX CLICKaRETROFLEX [,STRETCHED CaCURL;",
    "LATINbm+ :LaBELT,TURNED G,TURNED K;LATIN mb:CaRETROFLEX [,DEZH DIGRAPHaPALATAL [,",
    "DEZH DIGRAPHaRETROFLEX [,ENGaPALATAL [,ESHal BAR,ESHal BARhCURL,EZHaPALATAL [,",
    "FENG DIGRAPHaTRILL,IaqhRETROFLEX [,LaBELThPALATAL [,LaFISH[,LEZHaRETROFLEX [,OaRETROFLEX [,",
    "RaFISH[hPALATAL [,REVERSED ENG,REVERSED K,REVERSED SCRIPT G,SaCURL,Ta[hRETROFLEX [,",
    "TESH DIGRAPHaPALATAL [,TESH DIGRAPHaRETROFLEX [,TURNED RaLONG LEGhRETROFLEX [,",
    "TURNED RaPALATAL [,TURNED TaCURL,TURNED YaBELT;LINEAR Ad :A028B,A100-102,A120B,A131C,",
    "A301~308,A309A,A309B,A309C,A310~312,A313A,A313B,A313C,A314~371,A400-VAS,A401-VAS,A402-VAS,",
    "A403-VAS,A404-VAS,A405-VAS,A406-VAS,A407-VAS,A408-VAS,A409-VAS,A410-VAS,A411-VAS,A412-VAS,",
    "A413-VAS,A414-VAS,A415-VAS,A416-VAS,A417-VAS,A418-VAS,A501~506,A508~513,A515,A516,A520,A521,",
    "A523~532,A534~542,A545,A547~557,A559,A563~566,A568~589,A591,A592,A594~596,A598,A600~604,A606,",
    "A608~624,A626~629,A634,A637,A638,A640,A642~646,A648,A649,A651~664,A701 A,A702 B,A703 D,",
    "A704 E,A705 F,A706 H,A707 J,A708 K,A709 L,A709-2 L2,A709-3 L3,A709-4 L4,A709-6 L6,A710 W,",
    "A711 X,A712 Y,A713 OMEGA,A714 ABB,A715 BB,A717 DD,A726 EYYY,A732 JE,A800~807,AB001~011,AB013,",
    "AB016,AB017,AB020~024,AB021F,AB021M,AB022F,AB022M,AB023M,AB026~031,AB034,AB037~041,AB044~051,",
    "AB053~061,AB065~067,AB069,AB070,AB073,AB074,AB076~082,AB085~087,AB118,AB120,AB122,AB123,",
    "AB131A,AB131B,AB164,AB171,AB180,AB188,AB191;LINEAR B IDEOGRAM :B100 MAN,B102 WOMAN,B104 DEER,",
    "B105 EQUID,B105F MARE,B105M STALLION,B106F EWE,B106M RAM,B107F SHE-GOAT,B107M HE-GOAT,",
    "B108F SOW,B108M BOAR,B109F COW,B109M BULL,B120 WHEAT,B121 BARLEY,B122 OLIVE,B123 SPICE,",
    "B125 CYPERUS,B130 OIL,B131 WINE,B132,B140 BRONZE,B141 GOLD,B142,B145 WOOL,B146,B150,",
    "B151 HORN,B152~154,B157,B158,B159 CLOTH,B160,B161,B162 GARMENT,B163 ARMOUR,B164~172,",
    "B173 MONTH,B174,B176 TREE,B177~185,B189,B190,B191 HELMET,B220 FOOTSTOOL,B225 BATHTUB,",
    "B230 SPEAR,B231e,B232,B233 SWORD,B234,B236,B240 WHEELED CHARIOT,B241 CHARIOT,",
    "B242 CHARIOT FRAME,B243 WHEEL,B245,B246,B248,B249,B251~253,B254 DART,B255~259;",
    "LINEAR B IDEOGRAM VESSEL :B155,B200~219,B221,B222,B226~229,B250,B305;",
    "LINEAR B MONOGRAM :B127 KAPO,B128 KANAKO,B133 AREPA,B135 MERI,B156 TURO2,B247 DIPTE;",
    "LINEAR B SYLLABLE :B001 DA,B002 RO,B003 PA,B004 TE,B005 TO,B006 NA,B007 DI,B008 A,B009 SE,",
    "B010 U,B011 PO,B012 SO,B013 ME,B014 DO,B015 MO,B016 QA,B017 ZA,B020 ZO,B021 QI,B023 MU,",
    "B024 NE,B025 A2,B026 RU,B027 RE,B028 I,B029 PU2,B030 NI,B031 SA,B032 QO,B033 RA3,B036 JO,",
    "B037 TI,B038 E,B039 PI,B040 WI,B041 SI,B042 WO,B043 A3,B044 KE,B045 DE,B046 JE,B048 NWA,",
    "B050 PU,B051 DU,B052 NO,B053 RI,B054 WA,B055 NU,B057 JA,B058 SU,B059 TA,B060 RA,B061 O,",
    "B062 PTE,B065 JU,B066 TA2,B067 KI,B068 RO2,B069 TU,B070 KO,B071 DWE,B072 PE,B073 MI,B074 ZE,",
    "B075 WE,B076 RA2,B077 KA,B078 QE,B080 MA,B081 KU,B085 AU,B087 TWE,B090 DWO,B091 |;",
    "LINEAR Bk :B018,B019,B022,B034,B047,B049,B056,B063,B064,B079,B082,B083,B086,B089;LYCIANb:A,",
    "AN,B,BH,D,E,EN,G,H,I,J,K,KK,L,M,MM,N,NN,P,Q,R,S,T,TH,TT,U,W,X,Z;LYDIANb:A,AN,B,C,D,E,EN,F,G,",
    "I,K,L,LY,M,N,NN,O,Q,R,S,SS,T,TT,U,V,Y;MAHAJANI :ABBREVIATIONd,LIGATURE SHRI,SECTIONn,",
    "SIGN NUKTA;MAHAJANIb:A,BA,BHA,CA,CHA,DA,DDA,DDHA,DHA,E,GA,GHA,HA,I,JA,JHA,KA,KHA,LA,MA,NA,",
    "NNA,NYA,O,PA,PHA,RA,RRA,SA,TA,THA,TTA,TTHA,U,VA;MAKASAR :ANGKA,END OF SECTION,PASSIMBANG;",
    "MAKASARb:A,BA,CA,DA,GA,JA,KA,LA,MA,NA,NGA,NYA,PA,RA,SA,TA,VA,YA;MAKASAR VOWELd :E,I,O,U;",
    "MANICHAEAN ABBREVIATIONn :ABOVE,BELOW;MANICHAEANb:AAYIN,ALEPH,AYIN,BETH,BHETH,DALETH,DHAMEDH,",
    "FE,GHIMEL,GIMEL,HE,HETH,JAYIN,JHAYIN,KAPH,KHAPH,LAMEDH,MEM,NUN,PE,QHOPH,QOPH,RESH,SADHE,",
    "SAMEKH,SHIN,SSHIN,TAW,TETH,THAMEDH,WAW,XAPH,XOPH,YODH,ZAYIN,ZHAYIN;MANICHAEAN NUMBER :FIVE,!,",
    "!w,TEN,TWENTY;MANICHAEAN PUNCTUATION :%,% WITHIN %,l % WITHIN %,FLEURON,LINE FILLER,STAR,",
    "| %S;MARCHEN :HEADn,MARK SHAD,SIGN ANUSVARA,SIGN CANDRABINDU;MARCHENb:-A,A,BA,CA,CHA,DA,DZA,",
    "GA,HA,JA,KA,KHA,LA,MA,NA,NGA,NYA,PA,PHA,RA,SA,SHA,TA,THA,TSA,TSHA,WA,YA,ZA,ZHA;",
    "MARCHEN SUBJOINEDb:A,BA,CA,CHA,DA,DZA,GA,HA,JA,KA,KHA,LA,MA,NA,NGA,NYA,PA,PHA,RA,SA,SHA,TA,",
    "THA,TSA,TSHA,WA,YA,ZA,ZHA;MARCHEN VOWELd :AA,E,I,O,U;MASARAM GONDI :RA-KARA,REPHA,VIRAMA;",
    "MASARAM GONDI.:&,FIVE,_,NINE,!,@,SIX,r,|,ZERO;MASARAM GONDIb:A,AA,AI,AU,BA,BHA,CA,CHA,DA,DDA,",
    "DDHA,DHA,E,GA,GHA,HA,I,II,JA,JHA,JNYA,KA,KHA,KSSA,LA,LLA,MA,NA,NGA,NNA,NYA,O,PA,PHA,RA,SA,",
    "SHA,SSA,TA,THA,TRA,TTA,TTHA,U,UU,VA,YA;MASARAM GONDId :ANUSVARA,CANDRA,HALANTA,NUKTA,VISARGA;",
    "MASARAM GONDI VOWELd :AA,AI,AU,E,I,II,O,U,UU,VOCALIC R;MEDEFAIDRIN :COMMA,EXCLAMATION OH,",
    "FULL STOP,SYMBOL AIVA;MEDEFAIDRIN+b:A,AI,ATIU,B,C,D,E,F,G,HP,I,J,K,KP,L,M,N,NY,O,OE,P,Q,R,S,",
    "T,U,V,W,X,Y,YU,Z;MEDEFAIDRIN.:&,FIVE,_,NINE,!,! ALTERNATEc,@,SIX,r,r ALTERNATEc,|,",
    "| ALTERNATEc,ZERO;MEDEFAIDRIN NUMBER :&EEN,ELEVEN,FIFTEEN,_TEEN,NINETEEN,@TEEN,SIXTEEN,TEN,",
    "THIRTEEN,TWELVE;MEDEFAIDRIN mb:A,AI,ATIU,B,C,D,E,F,G,HP,I,J,K,KP,L,M,N,NY,O,OE,P,Q,R,S,T,U,V,",
    "W,X,Y,YU,Z;MENDE KIKAKUI COMBINING NUMBER :HUNDREDtS,HUNDREDS,MILLIONS,TEENS,TENtS,TENS,",
    "THOUSANDS;MENDE KIKAKUI.:&,FIVE,_,NINE,!,@,SIX,r,|;MENDE KIKAKUI SYLLABLE :M001 KI,M002 KA,",
    "M003 KU,M004 WI,M005 WA,M006 WU,M007 MIN,M008 MAN,M009 MUN,M010 BI,M011 BA,M012 BU,M013 I,",
    "M014 A,M015 U,M016 DI,M017 DA,M018 DU,M019 SI,M020 SA,M021 SU,M022 TI,M023 TA,M024 TU,",
    "M025 LI,M026 LA,M027 LU,M028 JI,M029 JA,M030 JU,M031 YI,M032 YA,M033 YU,M034 FI,M035 FA,",
    "M036 FU,M037 NIN,M038 NAN,M039 NUN,M040 HEE,M041 HA,M042 HOO,M043 NGGA,M044 KPEE,M045 WO,",
    "M046 HUAN,M047 MBEE,M048 KO,M049 WVA,M050 PU,M051 PE,M052 HEN,M053 HIN,M054 LOO,M055 TE,",
    "M056 GBA,M057 NGON,M058 NYAN,M059 MEN,M060 NYON,M061 WVI,M062 MBA,M063 JO,M064 NDO,M065 KEE,",
    "M066 PO,M067 NDOO,M068 PI,M069 TO,M070 GBO,M071 GBOO,M072 MBE,M073 LE,M074 KPU,M075 FE,",
    "M076 KOO,M077 VO,M078 FEE,M079 SO,M080 YE,M081 PEE,M082 NGGU,M083 HEEI,M084 LEE,M085 VE,",
    "M086 LONG NGGE,M087 HUN,M088 FO,M089 DEE,M090 NGGI,M091 TEE,M092 KPA,M093 GBEE,M094 MON,",
    "M095 KE,M096 HE,M097 BE,M098 NYEN,M099 PA,M100 E,M101 FAN,M102 POO,M103 BOO,M104 TOO,",
    "M105 LONG MBOO,M106 LONG NGGOO,M107 GBE,M108 KPE,M109 YEE,M110 LONG LE,M111 GA,M112 KPOO,",
    "M113 JE,M114 WOO,M115 NGGEE,M116 SE,M117 NEN,M118 WE,M119 NDE,M120 NGGO,M121 YO,M122 MBU,",
    "M123 NDI,M124 GBI,M125 NDU,M126 WEE,M127 NGGUA,M128 HOOU,M129 NDA,M130 HAN,M131 IN,M132 KPI,",
    "M133 FOO,M134 NJOO,M135 IN,M136 SOO,M137 EI,M138 BO,M139 WVE,M140 HO,M141 YOO,M142 LONG MBO,",
    "M143 WEI,M144 VOO,M145 MBI,M146 NGGE,M147 O,M148 GBU,M149 NJEE,M150 BEE,M151 VU,M152 NJA,",
    "M153 LO,M154 MUAN,M155 GI,M156 NGGOO,M157 JEE,M158 KPO,M159 NGGAA,M160 JOO,M161 LONG MBE,",
    "M162 SEE,M163 EE,M164 NYIN,M165 OO,M166 GUEI,M167 GUAN,M168 GU,M169 NON,M170 NYUN,M171 RA,",
    "M172 MBOO,M173 VEE,M174 MBO,M175 LONG JO,M176 HI,M177 NGUAN,M178 EN,M179 KUA,M180 DOO,",
    "M181 DO,M182 VI,M183 LONG NGGO,M184 NGEN,M185 VA,M186 HU,M187 MBUU,M188 MBEE,M189 MUEN,",
    "M190 GEE,M191 NDEE,M192 NJU,M193 HON,M194 WUI,M195 AN,M196 SIA,M197 FUA;",
    "MEROITIC CURSIVE FRACTION :& TWELFTHS,ELEVEN TWELFTHS,FIVE TWELFTHS,_ TWELFTHS,NINE TWELFTHS,",
    "! HALF,! TWELFTH,@ TWELFTHS,SIX TWELFTHS,TEN TWELFTHS,r TWELFTHS,| TWELFTHS;",
    "MEROITIC CURSIVEb:A,ARCHAIC SA,BA,DA,E,HHA,I,KA,KHA,LA,MA,NA,NE,O,PA,QA,RA,SA,SE,TA,TE,TO,WA,",
    "YA;MEROITIC CURSIVE LOGOGRAM :IMN,RMT;MEROITIC CURSIVE NUMBER :&,&w,&wt,&t,&Yt,FIFTY,FIFTYt,",
    "FIVE,FIVEw,FIVEwt,FIVEt,FORTY,FORTYt,_,_w,_wt,_t,NINE,NINEw,NINEwt,NINEt,NINETYt,!,!w,!wt,!t,",
    "@,@w,@wt,@t,@TY,@TYt,SIX,SIXw,SIXwt,SIXt,SIXTY,SIXTYt,TEN,TENt,THIRTY,THIRTYt,r,rw,rwt,rt,",
    "TWENTY,TWENTYt,|,|w,|wt,|t;MEROITIC HIEROGLYPHICb:A,BA,BA-2,DA,E,HHA,I,KA,KHA,LA,MA,NA,NA-2,",
    "NE,NE-2,O,PA,QA,RA,RA-2,SA,SA-2,SE,TA,TA-2,TE,TE-2,TO,WA,YA;MEROITIC HIEROGLYPHICk :VIDJ,",
    "VIDJ-2;MIAOb:AH,BA,BRI,DA,DDA,DLHA,DLHYA,DZA,DZHA,DZYI,DZZA,FA,GA,GHA,GHHA,HA,HHA,KA,LA,LHA,",
    "LHYA,LYA,MA,MHA,NA,NASALIZATION,NGA,NGHA,NHA,NNA,NNHA,NYA,NYHA,PA,PLA,QA,QGA,RTE,SA,SHA,SSA,",
    "SYI,TA,TE,TLHA,TLHYA,T!-2~8,TSA,TSE,TSHA,TSSA,TTA,VA,VFA,WA,XA,ZA,ZHA,ZSA,ZSHA,ZZA,ZZSA,",
    "ZZSYA,ZZYA;MIAObARCHAIC :MA,NA,NGA,ZZA;MIAObREFORMED :T!-1,T!-2,T!-4~6,T!-8,TSHA;",
    "MIAObYI :DZHA,KA,NNA,PA,TA,TSA,TSHA,TTA;MIAOd :ASPIRATION,CONSONANT MODIFIER BAR,",
    "REFORMED ASPIRATION,REFORMED VOICING;MIAO T! :ABOVE,BELOW,i,TOP i;MIAO VOWELd :A,AA,AE,AEE,",
    "AHH,AI,AN,ANG,AU,E,EA,EI,EN,ENG,ER,ERR,I,IA,IAN,IANG,IE,IG,II,ING,IO,IONG,IU,N,NG,O,OER,OEY,",
    "OG,OO,OU,ROUNDED ER,ROUNDED ERR,U,UA,UAN,UANG,UEI,UI,UNG,UOG,UU,VW,W,WO,Y,YI,YUI;",
    "MODI :ABBREVIATIONd,DANDA,l DANDA;MODI.:&,FIVE,_,NINE,!,@,SIX,r,|,ZERO;MODIb:A,AA,AI,AU,BA,",
    "BHA,CA,CHA,DA,DDA,DDHA,DHA,E,GA,GHA,HA,I,II,JA,JHA,KA,KHA,LA,LLA,MA,NA,NGA,NNA,NYA,O,PA,PHA,",
    "RA,SA,SHA,SSA,TA,THA,TTA,TTHA,U,UU,VA,YA;MODIbVOCALIC :L,LL,R,RR;MODId :ANUSVARA,ARDHACANDRA,",
    "HUVA,VIRAMA,VISARGA;MODI VOWELd :AA,AI,AU,E,I,II,O,U,UU;MODI VOWELd VOCALIC :L,LL,R,RR;",
    "MODIFIERb:ALVEOLAR CLICK,BILABIAL CLICK,DENTAL CLICK,GLOTTAL STOPaq,LATERAL CLICK,",
    "RETROFLEX CLICKaRETROFLEX [,REVERSED GLOTTAL STOPaq,SUPERSCRIPT HALF TRIANGULAR COLON,",
    "SUPERSCRIPT TRIANGULAR COLON;MODIFIERbm :AE,Ba[,CLOSED OMEGA,CLOSED REVERSED OPEN E,Da[,",
    "Da[hTAIL,DaTAIL,DEZH DIGRAPH,%LESS Jaqh[,DZ DIGRAPH,DZ DIGRAPHaCURL,DZ DIGRAPHaRETROFLEX [,",
    "FENG DIGRAPH,Ga[,Haq,HENGa[,LaBELT,LaRETROFLEX [hBELT,LEZH,LEZHaRETROFLEX [,LS DIGRAPH,",
    "LZ DIGRAPH,Oaq,Q,RaFISH[,RaTAIL,RAMS HORN,REVERSED E,SaCURL,TaRETROFLEX [,TC DIGRAPHaCURL,",
    "TESH DIGRAPH,TS DIGRAPH,TS DIGRAPHaRETROFLEX [,TURNED RaLONG LEG,",
    "TURNED RaLONG LEGhRETROFLEX [,TURNED Y,TURNED YaBELT,Vai [;MODIFIERbm+ :AA,B,G,Ga[,H,LaBELT,",
    "OE,R,Y;MONGOLIAN :BIRGAal ORNAMENT,BIRGAaORNAMENT,l BIRGAaORNAMENT,INVERTED BIRGA,",
    "INVERTED BIRGAal ORNAMENT,ROTATED BIRGA,SWIRL BIRGA,TRIPLE BIRGAaORNAMENT,",
    "TURNED SWIRL BIRGAal ORNAMENT;MONGOLIAN ROTATED BIRGAa:l ORNAMENT,ORNAMENT;",
    "MONGOLIAN SWIRL BIRGAa:l ORNAMENT,ORNAMENT;MRO :DANDA,l DANDA;MRO.:&,FIVE,_,NINE,!,@,SIX,r,|,",
    "ZERO;MROb:A,BA,CHU,DA,DAI,E,EA,HAI,HAO,KEAAE,KHAI,KO,LA,LAN,MAEM,MIM,NGI,NIN,O,OL,OO,PA,PHI,",
    "RI,RO,SHI,TA,TEK,THEA,WA,YO;MULTANIb:A,BA,BHA,CA,CHA,DA,DDA,DDDA,DDHA,DHA,E,GA,GHA,HA,I,JA,",
    "JJA,KA,KHA,LA,MA,NA,NNA,NYA,PA,PHA,RA,RHA,RRA,SA,TA,THA,TTA,TTHA,U,VA,YA;NABATAEANb:ALEPH,",
    "AYIN,BETH,DALETH,GIMEL,HE,HETH,KAPH,LAMEDH,MEM,NUN,PE,QOPH,RESH,SADHE,SAMEKH,SHIN,TAW,TETH,",
    "WAW,YODH,ZAYIN;NABATAEANbo :ALEPH,BETH,HE,KAPH,LAMEDH,MEM,NUN,SHIN,YODH;",
    "NABATAEAN NUMBER :FIVE,_,!,!w,TEN,r,TWENTY,|;NANDINAGARIb:A,AA,AI,AU,BA,BHA,CA,CHA,DA,DDA,",
    "DDHA,DHA,E,GA,GHA,HA,I,II,JA,JHA,KA,KHA,LA,LLA,MA,NA,NGA,NNA,NYA,O,PA,PHA,RA,RRA,SA,SHA,SSA,",
    "TA,THA,TTA,TTHA,U,UU,VA,VOCALIC R,VOCALIC RR,YA;NANDINAGARId :ANUSVARA,AVAGRAHA,SIDDHAM,",
    "VIRAMA,VISARGA;NANDINAGARI VOWELd :AA,AI,AU,E,I,II,O,PRISHTHAMATRA E,U,UU,VOCALIC R,",
    "VOCALIC RR;NEWA :ABBREVIATIONd,COMMA,DANDA,l COMMA,l DANDA,GAP FILLER,INSERTIONd,OM,",
    "PLACEHOLDERn,SANDHIn,SIDDHI;NEWA.:&,FIVE,_,NINE,!,@,SIX,r,|,ZERO;NEWAb:A,AA,AI,AU,BA,BHA,CA,",
    "CHA,DA,DDA,DDHA,DHA,E,GA,GHA,HA,I,II,JA,JHA,KA,KHA,LA,LHA,MA,MHA,NA,NGA,NGHA,NHA,NNA,NYA,",
    "NYHA,O,PA,PHA,RA,RHA,SA,SHA,SSA,TA,THA,TTA,TTHA,U,UU,VEDIC ANUSVARA,WA,YA;NEWAbVOCALIC :L,LL,",
    "R,RR;NEWAd :ANUSVARA,AVAGRAHA,CANDRABINDU,o ANUSVARA,JIHVAMULIYA,NUKTA,UPADHMANIYA,VIRAMA,",
    "VISARGA;NEWA VOWELd :AA,AI,AU,E,I,II,O,U,UU;NEWA VOWELd VOCALIC :L,LL,R,RR;",
    "NYIAKENG PUACHUE HMONG :#D CA,LOGOGRAM NYAJ,SIGN XW XW,SYLLABLE LENGTHENER,T!-B,T!-D,T!-G,",
    "T!-J,T!-M,T!-S,T!-V;NYIAKENG PUACHUE HMONG.:&,FIVE,_,NINE,!,@,SIX,r,|,ZERO;",
    "NYIAKENG PUACHUE HMONGb:A,AA,CA,DA,DLA,E,EE,FA,GA,HA,HAH,I,KA,LA,MA,MLA,NA,NCA,NKA,NPA,NPLA,",
    "NQA,NRA,NTA,NTSA,NTXA,NYA,O,OO,PA,PLA,QA,RA,RRA,SA,TA,TSA,TXA,U,VA,W,XA,XYA,YA,ZA;",
    "NYIAKENG PUACHUE HMONGd FOR :ANIMAL,INVERTEBRATE,LOCATION,PERSON,THING;OLD CHINESE :[n,",
    "ITERATIONn;OLD HUNGARIAN+b:A,AA,AK,AMB,AND,CLOSE E,E,EB,EC,ECH,ECS,ED,EE,EF,EG,EGY,EH,EJ,EK,",
    "EL,ELY,EM,EMP,EN,ENC,ENT,ENT-SHAPEDd,ENY,EP,ER,ES,ESZ,ET,ETY,EV,EZ,EZS,I,II,NIKOLSBURG OE,",
    "NIKOLSBURG UE,O,OEE,OO,RUDIMENTA OE,RUDIMENTA UE,SHORT ER,U,UNK,US,UU;",
    "OLD HUNGARIAN NUMBER :FIFTY,FIVE,!,!w,!t,TEN;OLD HUNGARIAN mb:A,AA,AK,AMB,AND,CLOSE E,E,EB,",
    "EC,ECH,ECS,ED,EE,EF,EG,EGY,EH,EJ,EK,EL,ELY,EM,EMP,EN,ENC,ENT,ENT-SHAPEDd,ENY,EP,ER,ES,ESZ,ET,",
    "ETY,EV,EZ,EZS,I,II,NIKOLSBURG OE,NIKOLSBURG UE,O,OEE,OO,RUDIMENTA OE,RUDIMENTA UE,SHORT ER,U,",
    "UNK,US,UU;OLD ITALICb:A,BE,CHE,DE,E,EF,EKS,EL,EM,EN,ER,ERS,ES,ESH,ESS,HE,I,II,KA,KE,KHE,KU,",
    "NORTHERN TSE,O,PE,PHE,SHE,SOUTHERN TSE,TE,THE,U,UU,VE,YE,ZE;OLD ITALIC NUMERAL :FIFTY,FIVE,!,",
    "TEN;OLD NORTH ARABIANb:AIN,ALEF,BEH,DAD,DAL,ES-1~3,FEH,GEEM,GHAIN,HAH,HEH,KAF,KHAH,LAM,MEEM,",
    "NOON,QAF,REH,SAD,TAH,TEH,THAL,THEH,WAW,YEH,ZAH,ZAIN;OLD NORTH ARABIAN NUMBER :!,TEN,TWENTY;",
    "OLD PERMICb:AN,BUR,CHERY,DOI,DZHOI,DZITA,E,EF,GAI,HA,I,IA,IE,KOKE,LEI,MENOE,NENOE,O,OO,PEEI,",
    "REI,SHCHOOI,SHOOI,SII,TAI,TSIU,U,VER,VOOI,YA,YAT,YER,YERI,YERU,YRY,YU,ZATA,ZHOI;",
    "OLD PERSIAN NUMBER :HUNDRED,!,TEN,TWENTY,|;OLD PERSIANd :A,AURAMAZDAA,AURAMAZDAA-2,",
    "AURAMAZDAAHA,BA,BAGA,BUUMISH,CA,DA,DAHYAAUSH,DAHYAAUSH-2,DI,DU,FA,GA,GU,HA,I,JA,JI,KA,KU,LA,",
    "MA,MI,MU,NA,NU,PA,RA,RU,SA,SHA,SSA,TA,THA,TU,U,VA,VI,XA,XSHAAYATHIYA,YA,ZA;",
    "OLD SOGDIAN :FRACTION ! HALF,LIGATURE AYIN-DALETH;OLD SOGDIANb:ALEPH,ALTERNATE AYIN,AYIN,",
    "BETH,GIMEL,HE,HETH,KAPH,LAMEDH,MEM,NUN,PE,RESH-AYIN-DALETH,SADHE,SAMEKH,SHIN,TAW,WAW,YODH,",
    "ZAYIN;OLD SOGDIANbo :ALEPH,BETH,HE,NUN,NUNau TAIL,SADHE,SADHEau TAIL,TAW,TAWau TAIL;",
    "OLD SOGDIAN NUMBER :FIVE,_,!,!w,TEN,THIRTY,r,TWENTY,|;OLD SOUTH ARABIAN :NUMBER FIFTY,",
    "NUMBER !,NUMERIC INDICATOR;OLD SOUTH ARABIANb:ALEF,AYN,BETH,DALETH,DHADHE,DHALETH,FE,GHAYN,",
    "GIMEL,HE,HETH,KAPH,KHETH,LAMEDH,MEM,NUN,QOPH,RESH,SADHE,SAMEKH,SAT,SHIN,TAW,TETH,THAW,THETH,",
    "WAW,YODH,ZAYN;OLD TURKICbORKHON :A,AB,AD,AEB,AED,AEG,AEK,AEL,AEN,AER,AES,AET,AEY,AG,AL,AN,AQ,",
    "AR,AS,ASH,AT,AY,BASH,EC,ELT,EM,ENC,ENG,ENT,ENY,EP,ESH,EZ,I,IC,IQ,O,OE,OEK,OP,OQ,OT;",
    "OLD TURKICbYENISEI :A,AB,AD,AE,AEB,AEG,AEK,AEN,AENG,AET,AEY,AG,AL,ANG,AQ,AR,ASH,AT,AY,E,EC,",
    "ENC,ENT,ENY,ESH,EZ,I,IQ,OE,OEK,OQ;OLD UYGHUR COMBINING :%f,%j,| %Sf,| %Sj;OLD UYGHURb:ALEPH,",
    "BETH,o HETH,GIMEL-HETH,KAPH,LAMEDH,LESH,MEM,NUN,PE,RESH,SADHE,SAMEKH,SHIN,TAW,WAW,YODH,ZAYIN;",
    "OLD UYGHUR PUNCTUATION :BAR,_ %S,| BARS,| %S;OSAGE+b:A,AH,AI,AIN,BRA,CHA,DHA,E,EHCHA,EHKA,",
    "EHPA,EHTA,EHTSA,EIN,GHA,HA,HYA,I,KA,KHA,KYA,LA,MA,NA,O,OIN,PA,SA,SHA,TA,TSA,TSHA,U,WA,ZA,ZHA;",
    "OSAGE mb:A,AH,AI,AIN,BRA,CHA,DHA,E,EHCHA,EHKA,EHPA,EHTA,EHTSA,EIN,GHA,HA,HYA,I,KA,KHA,KYA,LA,",
    "MA,NA,O,OIN,PA,SA,SHA,TA,TSA,TSHA,U,WA,ZA,ZHA;OSMANYA.:&,FIVE,_,NINE,!,@,SIX,r,|,ZERO;",
    "OSMANYAb:A,AA,ALEF,BA,CAYN,DEEL,DHA,E,EE,FA,GA,HA,I,JA,KAAF,KHA,LAAN,MIIN,NUUN,O,OO,QAAF,RA,",
    "SA,SHIIN,TA,U,WAW,XA,YA;OTTOMAN SIYAQ :FRACTION ! HALF,FRACTION ! SIXTH,MARRATAN;",
    "OTTOMAN SIYAQ ALTERNATE NUMBER :&,FIVE,_,_w,NINE,@,SIX,SIXw,TEN,TENt,r,|,|t;",
    "OTTOMAN SIYAQ NUMBER :&,&w,&t,&Y,&Yt,FIFTY,FIFTYt,FIVE,FIVEw,FIVEt,FORTY,FORTYt,_,_w,_t,NINE,",
    "NINEw,NINEt,NINETY,NINETYt,!,!w,!t,@,@w,@t,@TY,@TYt,SIX,SIXw,SIXt,SIXTY,SIXTYt,TEN,TENt,",
    "THIRTY,THIRTYt,r,rw,rt,TWENTY,TWENTYt,|,|w,|t;PAHAWH HMONG CLANd :FAJ,HAM,HAWJ,KHAB,KOO,KWM,",
    "LAUJ,LIS,MUAS,PHAB,THOJ,TSAB,TSHEEJ,TSWB,VAJ,VWJ,XYOOJ,YAJ,YEEG;PAHAWH HMONG CONSONANT :AU,",
    "CAU,CHAU,HAU,HLAU,HNAU,LAU,MAU,NAU,NCHAU,NKAU,NLAU,NTHAU,NTSAU,PLHAU,QHAU,RAU,VAU,XAU,YAU;",
    "PAHAWH HMONG.:&,FIVE,_,NINE,!,@,SIX,r,|,ZERO;PAHAWH HMONGn CIM :HOM,KES,KHAV,SO,SUAM,TAUM,",
    "TUB;PAHAWH HMONG NUMBER :HUNDRED MILLIONS,HUNDREDS,MILLIONS,TEN BILLIONS,TENtS,TENS,",
    "TRILLIONS;PAHAWH HMONGd :AV,HLI,HNUB,IB YAM,LOS,MEEJ SUAB,MEEJ TSEEB,MUS,NQIG,NTUJ,TAU,",
    "THIRD-STAGE HLI,TXHEEJ CEEV,XAUS,XIAB,XYEEM FAIB,XYEEM NTXIV,XYEEM RHO,XYEEM TOV,XYOO,",
    "ZWJ THAJ;PAHAWH HMONGd CIM :CHEEM,CUAM TSHOOJ,HAIS LUS NTOG NTOG,NRES TOS,PUB DAWB,TSOV ROG,",
    "TXWV,TXWV CHWV;PAHAWH HMONGd VOS :FEEM,LUB,NRUA,SEEV,THIAB,THOM,TSHAB CEEB;",
    "PAHAWH HMONG VOWEL :KAAB,KAAV,KAB,KAIB,KAIV,KAUB,KAUV,KAV,KAWB,KAWV,KEB,KEEB,KEEV,KEV,KIAB,",
    "KIAV,KIB,KIV,KOB,KOOB,KOOV,KOV,KUAB,KUAV,KUB,KUV,KWB,KWV;PALMYRENE :s-/FLEURON,i-/FLEURON;",
    "PALMYRENEb:ALEPH,AYIN,BETH,DALETH,o NUN,GIMEL,HE,HETH,KAPH,LAMEDH,MEM,NUN,PE,QOPH,RESH,SADHE,",
    "SAMEKH,SHIN,TAW,TETH,WAW,YODH,ZAYIN;PALMYRENE NUMBER :FIVE,_,!,TEN,r,TWENTY,|;",
    "PAU CIN HAU GLOTTAL :STOP,STOP o,STOP VARIANT;PAU CIN HAUb:A,BA,CA,CHA,DA,E,FA,GA,HA,I,IA,KA,",
    "KHA,LA,MA,NA,NGA,O,PA,PHA,RA,SA,TA,THA,U,UA,VA,ZA;PAU CIN HAUbo :K,L,M,N,NG,P,T,W,Y;",
    "PAU CIN HAU LOW-FALLING :T!,T! o,T! LONG,T! LONG o;PAU CIN HAU MID-LEVEL :T!,T! o,T! LONG o;",
    "PAU CIN HAU RISING :T!,T! o,T! LONG,T! LONG o;PAU CIN HAU SANDHI :GLOTTAL STOP,",
    "GLOTTAL STOP o,T!,T! o,T! LONG,T! LONG o;PHAISTOS DISCd :ARROW,BEE,BEEHIVE,BOOMERANG,BOW,",
    "BULLS LEG,CAPTIVE,CARPENTRY PLANE,CAT,CHILD,CLUB,COLUMN,COMB,COMBINING OBLIQUE q,DOLIUM,DOVE,",
    "EAGLE,FLUTE,GAUNTLET,GRATER,HELMET,HIDE,HORN,LID,LILY,MANACLES,MATTOCK,OX BACK,PAPYRUS,",
    "PEDESTRIAN,PLANE TREE,PLUMED HEAD,RAM,ROSETTE,SAW,SHIELD,SHIP,SLING,m AXE,STRAINER,",
    "TATTOOED HEAD,TIARA,TUNNY,VINE,WAVY BAND,WOMAN;PHOENICIANb:AIN,ALF,BET,DELT,GAML,HE,HET,KAF,",
    "LAMD,MEM,NUN,PE,QOF,ROSH,SADE,SEMK,SHIN,TAU,TET,WAU,YOD,ZAI;PHOENICIAN NUMBER :!,!w,TEN,r,",
    "TWENTY,|;PSALTER PAHLAVI :_ %SaCROSS,_ %Sa%,SECTIONn,TURNED SECTIONn;PSALTER PAHLAVIb:ALEPH,",
    "BETH,DALETH,GIMEL,HE,HETH,KAPH,LAMEDH,MEM-QOPH,NUN,PE,SADHE,SAMEKH,SHIN,TAW,WAW-AYIN-RESH,",
    "YODH,ZAYIN;PSALTER PAHLAVI NUMBER :_,!,!w,TEN,r,TWENTY,|;ROMAN :ASd,CENTURIALd,DENARIUSd,",
    "DIMIDIA SEXTULAd,DUPONDIUSd,QUINARIUSd,SEMUNCIAd,SESTERTIUSd,SEXTANSd,SEXTULAd,SILIQUAd,",
    "UNCIAd;RUMI.:&,FIVE,_,NINE,!,@,SIX,r,|;RUMI FRACTION :! HALF,! QUARTER,! THIRD,| THIRDS;",
    "RUMI NUMBER :&w,&Y,FIFTY,FIVEw,FORTY,_w,NINEw,NINETY,!w,@w,@TY,SIXw,SIXTY,TEN,THIRTY,rw,",
    "TWENTY,|w;SHARADA :ABBREVIATIONd,CONTINUATIONd,DANDA,l DANDA,EKAM,EXTRA SHORT VOWELn,HEADq,",
    "OM,SANDHIn,SECTIONn-1,SECTIONn-2,SEPARATOR,SUTRAn,VOWEL MODIFIERn;SHARADA.:&,FIVE,_,NINE,!,@,",
    "SIX,r,|,ZERO;SHARADAb:A,AA,AI,AU,BA,BHA,CA,CHA,DA,DDA,DDHA,DHA,E,GA,GHA,HA,I,II,JA,JHA,KA,",
    "KHA,LA,LLA,MA,NA,NGA,NNA,NYA,O,PA,PHA,RA,SA,SHA,SSA,TA,THA,TTA,TTHA,U,UU,VA,YA;",
    "SHARADAbVOCALIC :L,LL,R,RR;SHARADAd :ANUSVARA,AVAGRAHA,CANDRABINDU,INVERTED CANDRABINDU,",
    "JIHVAMULIYA,NUKTA,SIDDHAM,UPADHMANIYA,VIRAMA,VISARGA;SHARADA VOWELd :AA,AI,AU,E,I,II,O,",
    "PRISHTHAMATRA E,U,UU;SHARADA VOWELd VOCALIC :L,LL,R,RR;SHAVIANb:ADO,AGE,AH,AIR,ARE,ARRAY,ASH,",
    "AWE,BIB,CHURCH,DEAD,EAR,EAT,EGG,ERR,FEE,GAG,HA-HA,HUNG,IAN,ICE,IF,JUDGE,KICK,LOLL,MEASURE,",
    "MIME,NUN,OAK,OIL,ON,OOZE,OR,OUT,PEEP,ROAR,SO,SURE,THEY,THIGH,TOT,UP,VOW,WOE,WOOL,YEA,YEW,ZOO;",
    "SHORTHANDcAT :CONTINUING OVERLAP,DOWN STEP,LETTER OVERLAP,UP STEP;SIDDHAM :DANDA,l DANDA,",
    "END OF TEXTn,SEPARATOR BAR,SEPARATOR %;SIDDHAMb:A,AA,AI,ALTERNATE U,AU,BA,BHA,CA,CHA,DA,DDA,",
    "DDHA,DHA,E,GA,GHA,HA,I,II,JA,JHA,KA,KHA,LA,MA,NA,NGA,NNA,NYA,O,PA,PHA,RA,SA,SHA,SSA,TA,THA,",
    "r-# ALTERNATE I,TTA,TTHA,U,UU,VA,YA;SIDDHAMb|-# ALTERNATE :I,II;SIDDHAMbVOCALIC :L,LL,R,RR;",
    "SIDDHAM REPETITION :MARK-1~3;SIDDHAM SECTIONn l :RING,RINGaRAYS;",
    "SIDDHAM SECTIONna:#Sh_ ENCLOSURES,#ShRAYS,#Sh| ENCLOSURES,l CRESCENTS,QUADRUPLE CRESCENTS,",
    "SEPTUPLE CRESCENTS,TRIDENTh%TED CRESCENTS,TRIDENThU-SHAPED ORNAMENTS,TRIPLE CRESCENTS;",
    "SIDDHAM SECTIONnaRAYSh%TED :CRESCENTS,l CRESCENTS,TRIPLE CRESCENTS;SIDDHAMd :ANUSVARA,",
    "CANDRABINDU,NUKTA,SIDDHAM,VIRAMA,VISARGA;SIDDHAM VOWELd :AA,AI,ALTERNATE U,ALTERNATE UU,AU,E,",
    "I,II,O,U,UU,VOCALIC R,VOCALIC RR;SINHALA ARCHAIC.:&,FIVE,_,NINE,!,@,SIX,r,|;",
    "SINHALA ARCHAIC NUMBER :&Y,FIFTY,FORTY,NINETY,!w,!t,@TY,SIXTY,TEN,THIRTY,TWENTY;",
    "SOGDIAN COMBINING :CURVEf,CURVEj,%f,%j,[f,[j,LONG [j,RESHj,qj,| %Sf,| %Sj;SOGDIANb:ALEPH,",
    "AYIN,BETH,FETH,GIMEL,HE,HETH,KAPH,LAMEDH,LESH,MEM,NUN,PE,RESH-AYIN,SADHE,SAMEKH,SHIN,TAW,WAW,",
    "YODH,ZAYIN;SOGDIAN NUMBER :!,!w,TEN,TWENTY;SOGDIAN PUNCTUATION :#a%,HALF #a%,| #Sa%S,",
    "| u BARS,| u BARSa%S;SORA SOMPENG.:&,FIVE,_,NINE,!,@,SIX,r,|,ZERO;SORA SOMPENGb:AH,BAH,CAH,",
    "DAH,EEH,EH,GAH,HAH,IH,JAH,KAH,LAH,MAE,MAH,NAH,NGAH,NYAH,OH,PAH,RAH,SAH,TAH,UH,VAH,YAH;",
    "SOYOMBO :GEMINATIONn,SUBJOINER,TERMINALn-1,TERMINALn-2,VOWEL LENGTHn;SOYOMBO CLUSTER-pb:LA,",
    "RA,SA,SHA;SOYOMBO o CONSONANTd :-A,B,D,G,K,L,M,N,NG,R,S,SH;SOYOMBO HEADnaMOONh:SUN,SUNhFLAME,",
    "SUNhTRIPLE FLAME;SOYOMBOb:-A,A,BA,BHA,CA,CHA,DA,DDA,DDHA,DHA,DZA,GA,GHA,HA,JA,JHA,KA,KHA,",
    "KSSA,LA,MA,NA,NGA,NNA,NYA,PA,PHA,RA,SA,SHA,SSA,TA,THA,TSA,TSHA,TTA,TTHA,VA,YA,ZA,ZHA;",
    "SOYOMBOn :l SHAD,PLUTA,SHAD,TSHEG;SOYOMBOd :ANUSVARA,JIHVAMULIYA,UPADHMANIYA,VISARGA;",
    "SOYOMBO VOWELd :AI,AU,E,I,O,OE,U,UE,VOCALIC L,VOCALIC R;TAKRI.:&,FIVE,_,NINE,!,@,SIX,r,|,",
    "ZERO;TAKRIb:A,AA,AI,ARCHAIC KHA,AU,BA,BHA,CA,CHA,DA,DDA,DDHA,DHA,E,GA,GHA,HA,I,II,JA,JHA,KA,",
    "KHA,LA,MA,NA,NGA,NNA,NYA,O,PA,PHA,RA,RRA,SA,SHA,TA,THA,TTA,TTHA,U,UU,VA,YA;TAKRId :ANUSVARA,",
    "NUKTA,VIRAMA,VISARGA;TAKRI VOWELd :AA,AI,AU,E,I,II,O,U,UU;TAMIL :AND ODDd,CURRENTd,",
    "DRY CULTIVATIONd,FRACTION DOWNSCALING FACTOR KIIZH,IN POSSESSIONd,LANDd,",
    "PUNCTUATION END OF TEXT,SALT PANd,SPENTd,STARTING FROMd,TOTALd,WET CULTIVATIONd;",
    "TAMIL FRACTION ! :&H,&IETH,FIFTH,FORTIETH,HALF-1,HALF-2,!-HUNDRED-AND-SIXTIETH,QUARTER,",
    "SIXTEENTH-1,SIXTEENTH-2,SIXTY-_TH,TENTH,THIRTY-SECOND,r-HUNDRED-AND-TWENTIETH,TWENTIETH;",
    "TAMIL FRACTION r :&IETHS,QUARTERS,SIXTEENTHS,SIXTY-_THS,TWENTIETHS;TAMILd :AAZHAAKKU,CEVITU,",
    "KAACU,KURUNI,KUZHI,MUKKURUNI,MUTHALIYA,MUUVUZHAKKU,NEL,PAARAM,PANAM,PATHAKKU,PON,UZHAKKU,",
    "VAKAIYARAA,VARAAKAN,VELI;TAMIL TRADITIONAL :CREDITd,NUMBERd;TANGSA.:&,FIVE,_,NINE,!,@,SIX,r,",
    "|,ZERO;TANGSAb:AC,AQ,AWC,AWQ,AWX,AWZ,AX,AZ,BA,CA,CHA,DA,DHA,EC,EQ,EX,EZ,FA,o NG,GA,GHA,HA,",
    "HTA,HTTA,IC,IQ,IX,IZ,KA,KHA,LA,LONG UEX,MA,MC,MQ,MX,MZ,NA,NGA,NHA,NYA,OC,OQ,OX,OZ,PA,PHA,RA,",
    "SA,SHA,SHORT AWX,SHORT UEZ,TA,THA,TSA,UC,UEC,UEQ,UEX,UEZ,UIC,UIQ,UIUC,UIUQ,UIUX,UIUZ,UIX,UIZ,",
    "UQ,UX,UZ,VC,VQ,VX,VZ,WA,XA,YA,ZA;TANGUT :COMP!NT-001~768,ITERATIONn;TIRHUTA :ABBREVIATIONd,",
    "ANJI,GVANG,OM;TIRHUTA.:&,FIVE,_,NINE,!,@,SIX,r,|,ZERO;TIRHUTAb:A,AA,AI,AU,BA,BHA,CA,CHA,DA,",
    "DDA,DDHA,DHA,E,GA,GHA,HA,I,II,JA,JHA,KA,KHA,LA,MA,NA,NGA,NNA,NYA,O,PA,PHA,RA,SA,SHA,SSA,TA,",
    "THA,TTA,TTHA,U,UU,VA,YA;TIRHUTAbVOCALIC :L,LL,R,RR;TIRHUTAd :ANUSVARA,AVAGRAHA,CANDRABINDU,",
    "NUKTA,VIRAMA,VISARGA;TIRHUTA VOWELd :AA,AI,AU,E,I,II,O,SHORT E,SHORT O,U,UU;",
    "TIRHUTA VOWELd VOCALIC :L,LL,R,RR;TOTOb:A,AE,BA,CHA,DA,E,EO,GA,HA,I,IU,JA,KA,LA,MA,NA,NGA,O,",
    "PA,RA,SA,TA,U,WA,YA;TOTObBREATHY :AE,E,EO,I,IU;UGARITICb:AIN,ALPA,BETA,DELTA,DHAL,GAMLA,",
    "GHAIN,HO,HOTA,I,KAF,KHA,LAMDA,MEM,NUN,PU,QOPA,RASHA,SADE,SAMKA,SHIN,SSU,TET,THANNA,TO,U,WO,",
    "YOD,ZETA,ZU;VIETNAMESE ALTERNATE READINGn :CA,NHAY;VITHKUQI+b:A,BBE,BE,CE,CHE,DE,DHE,E,EI,FE,",
    "GA,HA,HHA,I,IJE,JE,KA,LA,LLA,ME,NE,NJE,O,PE,QA,RE,SE,SHE,TE,THE,U,VE,XE,Y,ZE;VITHKUQI mb:A,",
    "BBE,BE,CE,CHE,DE,DHE,E,EI,FE,GA,HA,HHA,I,IJE,JE,KA,LA,LLA,ME,NE,NJE,O,PE,QA,RE,SE,SHE,TE,THE,",
    "U,VE,XE,Y,ZE;WANCHO.:&,FIVE,_,NINE,!,@,SIX,r,|,ZERO;WANCHOb:A,AA,AAN,AANG,ANG,AU,BA,CA,DA,E,",
    "EN,FA,GA,HA,I,ING,JA,KA,KHA,LA,LLHA,MA,NA,NGA,NYA,O,ON,ONG,PA,PHA,RA,SA,SHA,TA,THA,TRA,TSA,U,",
    "UEN,VA,WA,YA,YIH,ZA;WANCHO T! :KOI,KOINI,TUP,TUPNI;WARANG CITI+b:A,AM,ANG,AT,BU,DA,E,ENN,ENY,",
    "GA,HAR,HIYO,HOLO,HORR,II,KO,NGAA,NUNG,O,ODD,PU,SII,SSUU,TTE,UC,UU,VIYO,WI,YA,YO,YU,YUJ;",
    "WARANG CITI.:&,FIVE,_,NINE,!,@,SIX,r,|,ZERO;WARANG CITI NUMBER :&Y,FIFTY,FORTY,NINETY,@TY,",
    "SIXTY,TEN,THIRTY,TWENTY;WARANG CITI mb:A,AM,ANG,AT,BU,DA,E,ENN,ENY,GA,HAR,HIYO,HOLO,HORR,II,",
    "KO,NGAA,NUNG,O,ODD,PU,SII,SSUU,TTE,UC,UU,VIYO,WI,YA,YO,YU,YUJ;YEZIDI COMBINING :HAMZAn,",
    "MADDAn;YEZIDIb:BE,CHHIM,CHIM,CIM,DAD,DAL,ELIF,ET,EW,EYN,FA,GAF,HAY,HHA,JA,KAF,KHAF,LAM,",
    "LAMa%f,MIM,NUN,OW,PE,PHE,QAF,RA,RHA,SAD,SE,SHIN,SIN,TA,THE,UM,VA,VA ALTERNATEc,WAW,XA,XHEYN,",
    "YOT,YOTaCIRCUMFLEXf,ZA,ZAL,ZE;ZANABAZAR = :CLOSING l-LINED HEADn,CLOSING HEADn,CLUSTER-pbRA,",
    "o CONSONANTn,p l-LINED HEADn,p HEADn,MARK l SHAD,MARK LONG TSHEG,MARK SHAD,MARK TSHEG,",
    "SUBJOINER,VOWEL LENGTHn;ZANABAZAR = CLUSTER-ob:LA,RA,VA,YA;ZANABAZAR =b:-A,A,BA,BHA,CA,CHA,",
    "DA,DDA,DDHA,DHA,DZA,DZHA,GA,GHA,HA,JA,KA,KHA,KSSA,LA,MA,NA,NGA,NNA,NYA,PA,PHA,RA,SA,SHA,SSA,",
    "TA,THA,TSA,TSHA,TTA,TTHA,VA,YA,ZA,ZHA;ZANABAZAR =d :ANUSVARA,CANDRAaORNAMENT,CANDRABINDU,",
    "CANDRABINDUaORNAMENT,VIRAMA,VISARGA;ZANABAZAR = VOWELd :AI,AU,E,I,O,OE,REVERSED I,U,UE;",
    "ZNAMENNY COMBINING :ATTACHING u OMET,LOWER TONAL RANGE INDICATOR;",
    "ZNAMENNY COMBININGn :BORZAYA,CHASHKA,CHASHKA POLNAYA,CURVED OMET,DEMESTVENNY ZADERZHKA,",
    "DVOETOCHIE,GORAZDO VYSOKO,KACHKA,KRYZH,KRYZH ON s,KUPNAYA,LOMKA,NIZKO ON s,NIZKO ON i,",
    "NIZKO S KRYZHEM ON s,NIZKO S KRYZHEM ON i,OBLACHKO,ON,OTSECHKA,PODCHASHIE,PODCHASHIEau q,",
    "PODVERTKA,RAVNO,RAZSEKA,SKOBA,SOROCHYA NOZHKA,SREDNE ON s,SREDNE ON i,STRANNO MALO POVYSHE,",
    "TIKHAYA,TOCHKA,TSATA ON s,TSATA ON i,TSATA S KRYZHEM,UDARKA,ZADERZHKA,ZELO,ZEVOK;",
    "ZNAMENNY COMBININGn GORAZDO NIZKO :ON s,ON i,S KRYZHEM ON s,S KRYZHEM ON i;",
    "ZNAMENNY COMBININGn MALO POVYSHE :ON s,ON i,S KHOKHLOM ON s,S KHOKHLOM ON i,S KRYZHEM,",
    "STRANNO;ZNAMENNY COMBININGn POVYSHE :ON s,ON i,S KHOKHLOM ON s,S KHOKHLOM ON i,S KRYZHEM,",
    "STRANNO;ZNAMENNY COMBININGn VYSOKO :ON s,ON i,S KHOKHLOM ON s,S KHOKHLOM ON i,S KRYZHEM;",
    "ZNAMENNY COMBINING TONAL RANGEn :MRACHNO,SVETLO,TRESVETLO;ZNAMENNY NEUME :CHASHKA,CHELYUSTKA,",
    "DEMESTVENNY KLYUCH,DERBITSA,l ZAPYATAYA,DUDA,DVA V CHELNU,FITA,KHAMILO,KLYUCH,KOBYLA,KRYUK,",
    "KRYUK TIKHY,KRYZH,KUFISMA,MECHIK,NEMKA,OBLAKO,OSOKA,PALKA,PARAKLIT,PAUK,PEREVODKA,",
    "PEREVODKA NEPOSTOYANNAYA,PODCHASHIE,POLKULIZMY,REVERSED CHELYUSTKA,ROG,SLOZHITIE,STATYA,",
    "STOPITSA,STOPITSA S OCHKOM,STOPITSAaSOROCHYA NOZHKA,ZANOZHEK,ZAPYATAYA,ZMEYTSA;",
    "ZNAMENNY NEUME GOLUBCHIK :BORZY,MRACHNY,SVETLY,TIKHY,TRESVETLY;",
    "ZNAMENNY NEUME MECHIK :KLYUCHENEPOSTOYANNY,KLYUCHEPOVODNY,KLYUCHEVOY,POVODNY;",
    "ZNAMENNY NEUME OSOKA :KLYUCHEVAYA NEPOSTOYANNAYA,KLYUCHEVAYA SVETLAYA,KRYUKOVAYA SVETLAYA,",
    "SVETLAYA,TRESVETLAYA;ZNAMENNY NEUME SKAMEYTSA :KLYUCHENEPOSTOYANNAYA,KLYUCHEVAYA SVETLAYA,",
    "KLYUCHEVAYA TIKHAYA,MRACHNAYA,SVETLAYA,TIKHAYA,TRESVETLAYA;",
    "ZNAMENNY NEUME SKAMEYTSA DVOECHELNAYA :KLYUCHEVAYA,NEPOSTOYANNAYA,PROSTAYA,SVETLAYA;",
    "ZNAMENNY NEUME SLOZHITIE :S KRYZHEM,S ZAPYATOY,ZAKRYTOE;",
    "ZNAMENNY NEUME STATYA :NEPOSTOYANNAYA,S DVUMYA ZAPYATYMI,S KRYZHEM,S KRYZHEM I ZAPYATOY,",
    "S ROGOM,S ZAPYATOY,S ZAPYATOY I KRYZHEM,S ZAPYATOY I PODCHASHIEM,ZAKRYTAYA,",
    "ZAKRYTAYA S ZAPYATOY;ZNAMENNY NEUME STRELA :DVOECHELNAYA,DVOECHELNAYA KLYUCHEVAYA,",
    "DVOECHELNOKRYZHEVAYA,DVOECHELNOPOVODNAYA,DVOECHELNOPOVODNAYA KLYUCHEVAYA,GROMNAYA,",
    "GROMNAYAaSINGLE ZAPYATAYA,GROMOKRYZHEVAYA,GROMOKRYZHEVAYA POVODNAYA,GROMOPOVODNAYA,",
    "GROMOPOVODNAYAal ZAPYATAYA,GROMOPOVODNAYAaSINGLE ZAPYATAYA,KLYUCHENEPOSTOYANNAYA,",
    "KLYUCHEPOVODNAYA,KRYUKOVAYA,KRYZHEVAYA,MRACHNOTIKHAYA,NEPOSTOYANNAYA,POLUPOVODNAYA,POVODNAYA,",
    "PROSTAYA,TIKHAYA PUTNAYA,TRYASOGLASNAYA,TRYASOPOVODNAYA,TRYASOSTRELNAYA;",
    "ZNAMENNY NEUME STRELA KRYUKOVAYA :GROMNAYA,GROMNAYAaSINGLE ZAPYATAYA,GROMOKRYZHEVAYA,",
    "GROMOKRYZHEVAYA POVODNAYA,GROMOPOVODNAYA,GROMOPOVODNAYAal ZAPYATAYA,",
    "GROMOPOVODNAYAaSINGLE ZAPYATAYA,POVODNAYA,TRYASKA;ZNAMENNY NEUME VRAKHIYA :MRACHNAYA,",
    "PROSTAYA,SVETLAYA,TRESVETLAYA;ZNAMENNY NEUME VRAKHIYA KLYUCHEVAYA :MRACHNAYA,PROSTAYA,",
    "SVETLAYA,TRESVETLAYA;ZNAMENNY PRIZNAK MODIFIER :DIRECTION FLIP,KRYZH,LEVEL-2,LEVEL-3,ROG"]

end BlockQuery.Text.CharacterName
