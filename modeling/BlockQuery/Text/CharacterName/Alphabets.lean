/-!
# Names of letters and marks

The names of the letters and marks of Europe and the Near East.
The lines make up one text, of groups of names between semicolons: what the names of
a group have in common, a colon, and their endings. Small letters and other signs
stand for words.
-/

namespace BlockQuery.Text.CharacterName

/-- The names of the letters and marks of Europe and the Near East. -/
def alphabets : List String :=
  [":ACUTE ACCENT,AFGHANId,AMPERSAND,APOSTROPHE,ASTERISK,BREVE,BROKEN BAR,CARON,CEDILLA,CENTd,",
    "CIRCUMFLEX ACCENT,COLON,COMMA,COMMERCIAL AT,COPYid,CURRENCYd,DEGREEd,DIAERESIS,DIVISIONd,",
    "DOLLARd,%f,l ACUTE ACCENT,EQUALSd,EXCLAMATIONn,FEMININE ORDINAL INDICATOR,FULL STOP,",
    "GEORGIAN PARAGRAPH SEPARATOR,GRAVE ACCENT,GREATER-THANd,HYPHEN-MINUS,",
    "s-FACING ARMENIAN ETERNITYd,s-/l ANGLE QUOTATIONn,LESS-THANd,LOW LINE,MACRON,",
    "MASCULINE ORDINAL INDICATOR,MICROd,*%,MODIFIER BREVEaINVERTED BREVE,MULTIPLICATIONd,",
    "NO-BREAK SPACE,NOTd,NUMBERd,OG!K,PERCENTd,PILCROWd,PLUSd,PLUS-MINUSd,POUNDd,QUESTIONn,",
    "QUOTATIONn,REGISTEREDd,REVERSE SOLIDUS,RIALd,i-FACING ARMENIAN ETERNITYd,",
    "i-/l ANGLE QUOTATIONn,RINGf,SAMARITAN ABBREVIATIONn,SECTIONd,SEMICOLON,SLAVONIC ASTERISK,",
    "m TILDE,SOFT HYPHEN,SOLIDUS,SPACE,TILDE,u LINE,YENd,ZERO WIDTH NO-BREAK SPACE;",
    "> :BASELINE ROUND %,COMMA,DAMMA,DAMMATAN,DAMMATAN gc,DATE SEPARATOR,DECIMAL SEPARATOR,",
    "DISPUTED END OF AYAH,lD MADDA,END OF AYAH,END OF TEXTn,FATHA,FATHATAN,FATHATAN gc,",
    "FIVE POINTED STAR,FOOTNOTEnER,FULL STOP,HALF MADDA OVER MADDA,HAMZAf,HAMZAj,INVERTED DAMMA,",
    "KASRA,KASRATAN,KASRATAN gc,LARGE #j,MADDA WAAJIB,MADDAHf,MARK NOON GHUNNA,",
    "MARK SIDEWAYS NOON GHUNNA,NUMBERnf,NUMBERd,PERCENTd,PIASTREnf,PLACE OF SAJDAH,POETIC VERSEd,",
    "POUNDnf,QUESTIONn,RAISED ROUND %,RAY,REVERSED DAMMA,ROUNDED HIGH STOPaFILLED CENTRE,",
    "SEMICOLON,SHADDA,SHADDA gc,SHADDA MEDIALc,START OF RUB EL HIZB,SUBSCRIPT ALEF,SUKUN,",
    "SUPERSCRIPT ALEF MOKHASSAS,TAIL FRAGMENT,TATWEEL,THOUSANDS SEPARATOR,TRIPLE % PUNCTUATIONn,",
    "TURNED DAMMAj,u TAIL,WAVY HAMZAj,ZWARAKAY;> CURLY :DAMMA,DAMMATAN,FATHA,FATHATAN,KASRA,",
    "KASRATAN;> DAMMA :gc,MEDIALc,WITH %;> l ieHEAD :ABOVE,ABOVEa%;> EMPTY CENTRE :HIGH STOP,",
    "LOW STOP;> FATHA :gc,MEDIALc,WITH %f,WITH RING,WITH | %S;> KASRA :gc,MEDIALc,WITH %j;",
    "> LARGE ROUND % :ABOVE,BELOW,INSIDE #j;> seHEAD :ABOVE,BELOW;>b:AE,AIN,ALEF,BEEH,BEEH oc,",
    "BEEH pc,BEEH gc,BEEH MEDIALc,BEH,BEH oc,BEH pc,BEH gc,BEH MEDIALc,BEHEH,DAD,DAD oc,DAD pc,",
    "DAD gc,DAD MEDIALc,DADa%j,DAHAL,DAHAL oc,DAHAL gc,DAL,DAL oc,DAL gc,DDAHAL,DDAHAL oc,",
    "DDAHAL gc,DDAL,DDAL oc,DDAL gc,%LESS BEH,%LESS FEH,%LESS QAF,DUL,DUL oc,DUL gc,DYEH,DYEH oc,",
    "DYEH pc,DYEH gc,DYEH MEDIALc,E,E oc,E pc,E gc,E MEDIALc,FARSI YEH,FEH,FEH oc,FEH pc,FEH gc,",
    "FEH MEDIALc,GAF,GHAIN,GRAF,GUEH,GUEH oc,GUEH pc,GUEH gc,GUEH MEDIALc,HAH,HAH oc,HAH pc,",
    "HAH gc,HAH MEDIALc,HAMZA,HAMZA gc,HEH,HIGH HAMZA,JEEM,JEH,JEH oc,JEH gc,KAF,KAF oc,KAF pc,",
    "KAF gc,KAF MEDIALc,KASHMIRI YEH,KEHEH,KHAH,KHAH oc,KHAH pc,KHAH gc,KHAH MEDIALc,LAM,LAM oc,",
    "LAM pc,LAM gc,LAM MEDIALc,LOW ALEF,MARK,MEEM,NG,NG oc,NG pc,NG gc,NG MEDIALc,NGOEH,NOON,NYEH,",
    "NYEH oc,NYEH pc,NYEH gc,NYEH MEDIALc,OE,OE oc,OE gc,PEH,PEHEH,QAF,REH,REH oc,REH gc,RNOON,",
    "ROHINGYA YEH,RREH,RREH oc,RREH gc,SAD,SEEN,SEEN oc,SEEN pc,SEEN gc,SEEN MEDIALc,SHEEN,",
    "STRAIGHT WAW,SUPERSCRIPT ALEF,SWASH KAF,TAH,TCHEH,TCHEHEH,TEH,TEHEH,THAL,THAL oc,THAL gc,",
    "THEH,THEH oc,THEH pc,THEH gc,THEH MEDIALc,THIN YEH,TTEH,TTEHEH,U,U oc,U gc,UaHAMZAf,",
    "UaHAMZAf gc,VE,VE oc,VE gc,VEH,VEH oc,VEH pc,VEH gc,VEH MEDIALc,WAW,WAW oc,WAW gc,YEH,YU,",
    "YU oc,YU gc,ZAH,ZAH oc,ZAH pc,ZAH gc,ZAH MEDIALc,ZAIN,ZAIN oc,ZAIN gc,ZAINaINVERTED Vf;",
    ">bAFRICAN :FEH,NOON,QAF,QAFar %Sf;>bAIN :oc,pc,gc,MEDIALc,WITH | %Sf,WITH | %S uLYf;",
    ">bAINar %S :ABOVE,BELOW,/DOWN$f;>bALEF :oc,gc,MAKSURA,MAKSURA oc,MAKSURA gc,WASLA,WASLA oc,",
    "WASLA gc;>bALEFa:%f,s *q,MADDAf,MADDAf oc,MADDAf gc,i *q,i *qh%f,i *qhs RING,WAVY HAMZAf,",
    "WAVY HAMZAj;>bALEFaATTACHED :BOTTOM i KASRA,BOTTOM i KASRAh%f,BOTTOM i KASRAhs RING,FATHA,",
    "KASRA,s HAMZA,s ROUND %,i HAMZA,i ROUND %,ROUND %f,ROUND %j,TOP i FATHA,TOP i FATHAh%f,",
    "TOP i FATHAhs RING;>bALEFaEXTENDED >-INDIC.:rf,|f;>bALEFaHAMZA :ABOVE,ABOVE oc,ABOVE gc,",
    "BELOW,BELOW oc,BELOW gc;>bBEHa:%jhr %Sf,HAMZAf,INVERTED m Vj,m MEEMf,m V,m Vj,r %S vLYj,",
    "| %Sjh%f;>bBEHar %S /UP$ :BELOW,BELOWh| %Sf;>bBEHEH :oc,pc,gc,MEDIALc;>bDALa:%j,%jhm TAH,",
    "_ %Sf,INVERTED m Vj,INVERTED V,RING,r %Sf DOWN$,r %Sj,| %S uLYjhm TAH;>bFARSI YEH :oc,pc,gc,",
    "MEDIALc,WITH INVERTED V,WITH r %Sf,WITH | %Sf;>bFARSI YEHaEXTENDED >-INDIC.:_j,rf,|f;",
    ">bFEHa:%j,%jhr %Sf,% MOVEDj,r %Sj,r %S /UP$j,| %Sj;>bGAF :oc,pc,gc,MEDIALc,WITH INVERTED q,",
    "WITH RING,WITH r %Sf,WITH | %Sj;>bGHAIN :oc,pc,gc,MEDIALc,WITH %j,WITH r %Sf;",
    ">bHAHa:EXTENDED >-INDIC._j,HAMZAf,INVERTED m Vj,r %Sf,r %S /UP$j,| %Sf,| %S uf;",
    ">bHAHam >bTAH :ABOVE,AND | %S,BELOW;>bHEH :DOACHASHMEE,oc,GOAL,GOAL oc,GOAL pc,GOAL gc,",
    "GOAL MEDIALc,GOALaHAMZAf,pc,gc,MEDIALc,WITH INVERTED V,WITH YEHf,WITH YEHf oc,WITH YEHf gc;",
    ">bHEH DOACHASHMEE :oc,pc,gc,MEDIALc;>bHIGH HAMZA :ALEF,WAW,YEH;>bJEEM :oc,pc,gc,MEDIALc,",
    "WITH r %Sf,WITH r %Sj,WITH | %Sf;>bKAFa:%f,%j,RING,r %Sj,| %Sf;>bKEHEH :oc,pc,gc,MEDIALc,",
    "WITH %f,WITH m V,WITH | %Sf,WITH | %S uLYj;>bKEHEHar %S :ABOVE,BELOW,/UP$j;>bKIRGHIZ :OE,",
    "OE oc,OE gc,YU,YU oc,YU gc;>bLAMa:BAR,%f,l BAR,m >bTAHf,m V,r %Sf,r %Sj;>bMEEM :oc,pc,gc,",
    "MEDIALc,WITH %f,WITH %j,WITH r %Sf;>bNGOEH :oc,pc,gc,MEDIALc;>bNOON :oc,GHUNNA,GHUNNA oc,",
    "GHUNNA gc,pc,gc,MEDIALc;>bNOONa:%j,INVERTED m V,RING,m TAH,m V,r %Sf,| %Sj;>bPEH :oc,pc,gc,",
    "MEDIALc,WITH m MEEMf,WITH m V;>bPEHEH :oc,pc,gc,MEDIALc;>bQAF :oc,pc,gc,MEDIALc,WITH %f,",
    "WITH %j,WITH %jhNO %Sf,WITH r %Sf;>bREHa:%j,%jh%f,_ %Sf,HAMZAf,INVERTED V,LOOP,RING,",
    "m >bTAHh| %S,m NOONf,m V,m Vj,q,| %Sf,| %S uLYf;>bRNOON :oc,pc,gc,MEDIALc;>bSAD :oc,pc,gc,",
    "MEDIALc,WITH r %Sf,WITH r %Sj,WITH | %Sj;>bSEENa:%jh%f,EXTENDED >-INDIC._f,_ %Sf,INVERTED V,",
    "m >bTAHh| %S,r %Sj,r %Sjhr %Sf,| %S uLYf;>bSHEEN :oc,pc,gc,MEDIALc,WITH %j;>bTAH :oc,pc,gc,",
    "MEDIALc,WITH %j,WITH r %Sf,WITH r %Sj,WITH | %Sf;>bTCHEH :oc,pc,gc,MEDIALc,WITH %f,WITH m V;",
    ">bTCHEHEH :oc,pc,gc,MEDIALc;>bTEH :oc,pc,gc,MARBUTA,MARBUTA oc,MARBUTA GOAL,MARBUTA gc,",
    "MEDIALc,WITH RING,WITH m TEHf,WITH m V,WITH r %Sf DOWN$;>bTEHEH :oc,pc,gc,MEDIALc;>bTTEH :oc,",
    "pc,gc,MEDIALc,WITH m V;>bTTEHEH :oc,pc,gc,MEDIALc;>bUIGHUR KAZAKH KIRGHIZ ?:pc,MEDIALc;",
    ">bWAWa:%f,% WITHIN,HAMZAf,HAMZAf oc,HAMZAf gc,RING,| %Sf;>bWAWaEXTENDED >-INDIC.:rf,|f;",
    ">bYEH :BARREE,BARREE oc,BARREE gc,oc,pc,gc,MEDIALc,WITH HAMZAf,WITH m V,WITH TAIL,WITH r %Sj;",
    ">bYEH BARREEaEXTENDED >-INDIC.:rf,|f;>bYEH BARREEaHAMZA :ABOVE,ABOVE oc,ABOVE gc;",
    ">bYEHaHAMZAf :oc,pc,gc,MEDIALc;>bYEHa| %Sjh:%f,HAMZAf,m NOONf;> LIGATURE :AKBAR gc,",
    "ALAYHAA AS-SALAAM,ALAYHE gc,ALAYHI AS-SALAAM,ALAYHI AS-SALAATU WAS-SALAAM,ALAYHIM AS-SALAAM,",
    "ALAYHIMAA AS-SALAAM,ALLAH gc,AZZA WA JALL,BISMILLAH AR-RAHMAN AR-RAHEEM,JALLAJALALOUHOU,",
    "MOHAMMAD gc,QALA USED AS KORANIC STOPd gc,QUDDISA SIRRAH,RAHIMAHU ALLAAH,RAHIMAHUM ALLAAH,",
    "RASOUL gc,REHaSUPERSCRIPT ALEF gc,SALAAMUHU ALAYNAA,SALAM gc,SALLA gc,",
    "SALLA USED AS KORANIC STOPd gc,SALLALLAAHU ALAYHI WA-AALIH,SALLALLAHOU ALAYHE WASALLAM,",
    "SALLALLAHU ALAYHI WAAALIHEE WA-SALLAM,SUBHAANAHU WA TAAALAA,TABAARAKA WA-TAAALAA,",
    "THALaSUPERSCRIPT ALEF gc,WASALLAM gc;> LIGATURE AINa:?oc,?gc,JEEM pc,JEEM gc,JEEMaMEEM oc,",
    "JEEMaMEEM pc,MEEM pc,MEEM gc,YEH oc,YEH gc;> LIGATURE AINaMEEMa:?oc,MEEM oc,MEEM pc,YEH oc;",
    "> LIGATURE ALEF MAKSURAaSUPERSCRIPT ALEF :oc,gc;> LIGATURE ALEFaFATHATAN :oc,gc;",
    "> LIGATURE BEHa:?oc,?gc,HAH pc,HAH gc,HAHaYEH oc,HEH pc,HEH MEDIALc,JEEM pc,JEEM gc,KHAH pc,",
    "KHAH gc,KHAHaYEH oc,MEEM oc,MEEM pc,MEEM gc,MEEM MEDIALc,NOON oc,REH oc,YEH oc,YEH gc,",
    "ZAIN oc;> LIGATURE DADa:?oc,?gc,HAH pc,HAH gc,HAHa?oc,HAHaYEH oc,JEEM pc,JEEM gc,KHAH pc,",
    "KHAH gc,KHAHaMEEM oc,KHAHaMEEM pc,MEEM pc,MEEM gc,REH oc,REH gc,YEH oc,YEH gc;",
    "> LIGATURE FEHa:?oc,?gc,HAH pc,HAH gc,JEEM pc,JEEM gc,KHAH pc,KHAH gc,KHAHaMEEM oc,",
    "KHAHaMEEM pc,MEEM pc,MEEM gc,MEEMaYEH oc,YEH oc,YEH gc;> LIGATURE GHAINa:?oc,?gc,JEEM pc,",
    "JEEM gc,MEEM pc,MEEM gc,MEEMa?oc,MEEMaMEEM oc,MEEMaYEH oc,YEH oc,YEH gc;> LIGATURE HAHa:?oc,",
    "?gc,JEEM pc,JEEM gc,JEEMaYEH oc,MEEM pc,MEEM gc,MEEMa?oc,MEEMaYEH oc,YEH oc,YEH gc;",
    "> LIGATURE HEHa:?gc,JEEM pc,JEEM gc,MEEM pc,MEEM gc,MEEMaJEEM pc,MEEMaMEEM pc,",
    "SUPERSCRIPT ALEF pc,YEH gc;> LIGATURE JEEMa:?oc,?gc,HAH pc,HAH gc,HAHa?oc,HAHaYEH oc,MEEM pc,",
    "MEEM gc,YEH oc,YEH gc;> LIGATURE JEEMaMEEMa:?oc,HAH oc,HAH pc,YEH oc;> LIGATURE KAFa:ALEF oc,",
    "ALEF gc,?oc,?gc,HAH pc,HAH gc,JEEM pc,JEEM gc,KHAH pc,KHAH gc,LAM oc,LAM pc,LAM gc,",
    "LAM MEDIALc,YEH oc,YEH gc;> LIGATURE KAFaMEEM :oc,pc,gc,MEDIALc,WITH MEEM oc,WITH MEEM pc,",
    "WITH YEH oc;> LIGATURE KHAHa:?oc,?gc,HAH gc,JEEM pc,JEEM gc,MEEM pc,MEEM gc,YEH oc,YEH gc;",
    "> LIGATURE LAMa:ALEF oc,ALEF gc,?oc,?gc,HAH pc,HAH gc,HAHa?oc,HAHaMEEM oc,HAHaMEEM pc,",
    "HAHaYEH oc,HEH pc,JEEM pc,JEEM gc,KHAH pc,KHAH gc,KHAHaMEEM oc,KHAHaMEEM pc,YEH oc,YEH gc;",
    "> LIGATURE LAMaALEFa:HAMZAf oc,HAMZAf gc,HAMZAj oc,HAMZAj gc,MADDAf oc,MADDAf gc;",
    "> LIGATURE LAMaJEEMa:JEEM oc,JEEM pc,MEEM oc,MEEM pc,YEH oc;> LIGATURE LAMaMEEM :oc,pc,gc,",
    "MEDIALc,WITH HAH oc,WITH HAH pc,WITH YEH oc;> LIGATURE MEEMa:ALEF oc,?gc,HAH pc,HAH gc,",
    "HAHaJEEM pc,HAHaMEEM pc,HAHaYEH oc,JEEM pc,JEEM gc,KHAH pc,KHAH gc,KHAHaJEEM pc,KHAHaMEEM pc,",
    "KHAHaYEH oc,MEEM oc,MEEM pc,MEEM gc,MEEMaYEH oc,YEH gc;> LIGATURE MEEMaJEEMa:HAH pc,KHAH pc,",
    "MEEM pc,YEH oc;> LIGATURE NOONa:?oc,?gc,HAH pc,HAH gc,HAHa?oc,HAHaMEEM pc,HAHaYEH oc,HEH pc,",
    "HEH MEDIALc,JEEM pc,JEEM gc,KHAH pc,KHAH gc,MEEM oc,MEEM pc,MEEM gc,MEEM MEDIALc,MEEMa?oc,",
    "MEEMaYEH oc,NOON oc,REH oc,YEH oc,YEH gc,ZAIN oc;> LIGATURE NOONaJEEMa:?oc,HAH oc,HAH pc,",
    "MEEM oc,MEEM pc,YEH oc;> LIGATURE QAFa:?oc,?gc,HAH pc,HAH gc,MEEM pc,MEEM gc,YEH oc,YEH gc;",
    "> LIGATURE QAFaMEEMa:HAH oc,HAH pc,MEEM oc,YEH oc;> LIGATURE RADI ALLAAHU :ANH,ANHAA,ANHUM,",
    "ANHUMAA,ANHUNNA;> LIGATURE SADa:?oc,?gc,HAH pc,HAH gc,HAHaHAH oc,HAHaHAH pc,HAHaYEH oc,",
    "KHAH pc,MEEM pc,MEEM gc,MEEMaMEEM oc,MEEMaMEEM pc,REH oc,REH gc,YEH oc,YEH gc;",
    "> LIGATURE SEENa:?oc,?gc,HAH pc,HAH gc,HAH MEDIALc,HAHaJEEM pc,HEH pc,HEH MEDIALc,JEEM pc,",
    "JEEM gc,JEEM MEDIALc,JEEMa?oc,JEEMaHAH pc,KHAH pc,KHAH gc,KHAH MEDIALc,KHAHa?oc,KHAHaYEH oc,",
    "MEEM pc,MEEM gc,MEEM MEDIALc,REH oc,REH gc,YEH oc,YEH gc;> LIGATURE SEENaMEEMa:HAH oc,HAH pc,",
    "JEEM pc,MEEM oc,MEEM pc;> LIGATURE SHADDAa:DAMMA gc,DAMMA MEDIALc,DAMMATAN gc,FATHA gc,",
    "FATHA MEDIALc,KASRA gc,KASRA MEDIALc,KASRATAN gc,SUPERSCRIPT ALEF gc;> LIGATURE SHEENa:?oc,",
    "?gc,HAH oc,HAH pc,HAH gc,HAH MEDIALc,HAHaMEEM oc,HAHaMEEM pc,HAHaYEH oc,HEH pc,HEH MEDIALc,",
    "JEEM oc,JEEM pc,JEEM gc,JEEM MEDIALc,JEEMaYEH oc,KHAH oc,KHAH pc,KHAH gc,KHAH MEDIALc,REH oc,",
    "REH gc,YEH oc,YEH gc;> LIGATURE SHEENaMEEM :oc,pc,gc,MEDIALc,WITH KHAH oc,WITH KHAH pc,",
    "WITH MEEM oc,WITH MEEM pc;> LIGATURE TAHa:?oc,?gc,HAH pc,HAH gc,MEEM pc,MEEM gc,MEEM MEDIALc,",
    "YEH oc,YEH gc;> LIGATURE TAHaMEEMa:HAH oc,HAH pc,MEEM pc,YEH oc;> LIGATURE TEHa:?oc,?gc,",
    "HAH pc,HAH gc,HAHaJEEM oc,HAHaJEEM pc,HAHaMEEM pc,HEH pc,HEH MEDIALc,JEEM pc,JEEM gc,",
    "JEEMa?oc,JEEMaMEEM pc,JEEMaYEH oc,KHAH pc,KHAH gc,KHAHa?oc,KHAHaMEEM pc,KHAHaYEH oc,MEEM oc,",
    "MEEM pc,MEEM gc,MEEM MEDIALc,NOON oc,REH oc,YEH oc,YEH gc,ZAIN oc;> LIGATURE TEHaMEEMa:?oc,",
    "HAH pc,JEEM pc,KHAH pc,YEH oc;> LIGATURE THEHa:?oc,?gc,HEH MEDIALc,JEEM gc,MEEM oc,MEEM pc,",
    "MEEM gc,MEEM MEDIALc,NOON oc,REH oc,YEH oc,YEH gc,ZAIN oc;",
    "> LIGATURE UIGHUR KIRGHIZ YEHaHAMZAfa?:oc,pc,gc;> LIGATURE YEHa:?oc,?gc,HAH pc,HAH gc,",
    "HAHaYEH oc,HEH pc,HEH MEDIALc,JEEM pc,JEEM gc,JEEMaYEH oc,KHAH pc,KHAH gc,NOON oc,REH oc,",
    "YEH oc,YEH gc,ZAIN oc;> LIGATURE YEHaHAMZAfa:AE oc,AE gc,ALEF oc,ALEF gc,?oc,?gc,E oc,E pc,",
    "E gc,HAH pc,HAH gc,HEH pc,HEH MEDIALc,JEEM pc,JEEM gc,KHAH pc,MEEM oc,MEEM pc,MEEM gc,",
    "MEEM MEDIALc,NOON oc,OE oc,OE gc,REH oc,U oc,U gc,WAW oc,WAW gc,YEH oc,YEH gc,YU oc,YU gc,",
    "ZAIN oc;> LIGATURE YEHaMEEM :oc,pc,gc,MEDIALc,WITH MEEM oc,WITH MEEM pc,WITH YEH oc;",
    "> LIGATURE ZAHaMEEM :pc,gc,MEDIALc;> OPEN :DAMMATAN,FATHATAN,KASRATAN;> ieHEAD :ABOVE,",
    "ABOVEa%,BELOW;>d :ALAYHE ASSALLAM,MISRA,RADI ALLAHOU ANHU,RAHMATULLAH ALAYHE,SAFHA,",
    "SALLALLAHOU ALAYHE WASSALLAM,SAMVAT,SANAH,SINDHI AMPERSAND,SINDHI POSTPOSITION MEN,TAKHALLUS;",
    "> m :DAMMA,FARSI YEH,FATHA,KASRA,WAW,YEH;> m HIGH :AIN,%LESS HEAD OF KHAH,FARSI YEH,",
    "FOOTNOTEnER,JEEM,LAM ALEF,LIGATURE ALEFaLAMaYEH,LIGATURE QAFaLAMaALEF MAKSURA,",
    "LIGATURE SADaLAMaALEF MAKSURA,MADDA,MEEM pc,MEEM gc,NOON,NOONaKASRA,QAF,ROUNDED ZERO,SAD,",
    "SEEN,SIGN SAFHA,TAH,r %S,UPi RECTANGULAR ZERO,WAW,YEH,YEH BARREEa| %Sj,ZAH,ZAIN;",
    "> m HIGH WORD :AL-JUZ,AN-NISF,AR-RUB,AS-SAJDA,ATH-THALATHA,QIF,SAH,SAKTA,WAQFA;> m LOW :MEEM,",
    "NOONaKASRA,SEEN,WAW,WORD IMAALA,WORD ISHMAAM,WORD TASHEEL;> SUKUN :BELOW,gc,MEDIALc;>k :%f,",
    "%j,l u BARj,_ %Sf,_ %Sj,RING,m TAHf,m TAHj,WASLAf;>k r %S :ABOVE,BELOW,/DOWN$f,/DOWN$j;",
    ">k | %S :ABOVE,BELOW,uLYf,uLYj;> TATWEELa:FATHATANf,OVERSTRUCK HAMZA,OVERSTRUCK WAW,| %Sj;",
    "> T! :LOOPf,LOOPj,! %f,! %j,| %Sf,| %Sj;> VOWELd :%j,INVERTED m Vf,m Vf;>-INDIC :CUBE ROOT,",
    "_TH ROOT,PER MILLEd,PER TENtd;>-INDIC.:&,FIVE,_,NINE,!,@,SIX,r,|,ZERO;",
    "ARMENIAN :ABBREVIATIONn,APOSTROPHE,COMMA,DRAMd,EMPHASISn,EXCLAMATIONn,FULL STOP,HYPHEN,",
    "MODIFIERbs HALF RING,QUESTIONn;ARMENIAN+b:AYB,BEN,CA,CHA,CHEH,CO,DA,ECH,EH,ET,FEH,GHAD,GIM,",
    "HO,INI,JA,JHEH,KEH,KEN,LIWN,MEN,NOW,OH,PEH,PIWR,RA,REH,SEH,SHA,TIWN,TO,VEW,VO,XEH,YI,YIWN,ZA,",
    "ZHE;ARMENIAN mb:AYB,BEN,CA,CHA,CHEH,CO,DA,ECH,EH,ET,FEH,GHAD,GIM,HO,INI,JA,JHEH,KEH,KEN,LIWN,",
    "MEN,NOW,OH,PEH,PIWR,RA,REH,SEH,SHA,TIWN,TO,TURNED AYB,VEW,VO,XEH,YI,YIaq,YIWN,ZA,ZHE;",
    "ARMENIAN m LIGATURE :ECH YIWN,MEN ECH,MEN INI,MEN NOW,MEN XEH,VEW NOW;BAMUM :COLON,COMMA,",
    "FULL STOP,NJAEMLI,QUESTIONn,SEMICOLON;BAMUM COMBININGn :KOQNDON,TUKWENTIS;BAMUMb:A,EE,FAAMAE,",
    "FEE,FOM,FU,I,KA,KEN,KET,KEUX,KI,KO,KOGHOM,KOVUU,KPA,KU,KYEE,LA,LEEEE,LI,LOQ,LU,M,MA,MBAA,",
    "MBEN,MEEEE,MEN,MI,MO,MU,NA,NDAA,NGA,NGGA,NGKWAEN,NI,NJAEM,NJEE,NJUAE,NSHA,NTEE,NTUU,NU,NUAE,",
    "NYI,O,PA,PEE,PEUX,PI,PUAE,PUE,RAE,REE,REN,REUX,RIEE,RII,RU,SAMBA,SEUX,SHEUX,SHII,SHO,SHU,SI,",
    "SUU,TAA,TAE,TEN,TET,TI,U,WA,WUE,YA,YOQ,YUQ;COMBINING :ACUTE ACCENT,ACUTE ACCENTj,ACUTE T!n,",
    "ACUTE-GRAVE-ACUTE,ACUTE-MACRON,ASTERISKj,BREVE,BREVEj,BREVE-MACRON,BRIDGEf,BRIDGEj,",
    "CANDRABINDU,CARON,CARONj,CEDILLA,CIRCUMFLEX ACCENT,CIRCUMFLEX ACCENTj,COMMAf,COMMAf i,COMMAj,",
    "DELETIONn,DIAERESIS,DIAERESISj,%TED ACUTE ACCENT,%TED GRAVE ACCENT,DOWN TACKj,EQUALSdj,",
    "FERMATA,GRAPHEME JOINER,GRAVE ACCENT,GRAVE ACCENTj,GRAVE T!n,GRAVE-ACUTE-GRAVE,GRAVE-MACRON,",
    "HOMOTHETICf,[f,HORN,ISj,LONG SOLIDUS OVERLAY,LONG q OVERLAY,LOW LINE,MACRON,MACRONj,",
    "MACRON-ACUTE,MACRON-BREVE,MACRON-GRAVE,MINUSdj,NOT TILDEf,OG!K,OG!Kf,OVERLINE,PALATALIZED [j,",
    "PLUSdj,RETROFLEX [j,REVERSED COMMAf,i TACKj,RINGf,RINGj,SEAGULLj,SHORT SOLIDUS OVERLAY,",
    "SHORT q OVERLAY,SNAKEj,=j,SUSPENSIONn,TILDE,TILDEj,TILDE OVERLAY,TURNED COMMAf,UP TACKf,",
    "UP TACKj,UP$ej,URf,USf,WIDE INVERTED BRIDGEj,Xf,Xj,ZIGZAGf,ZIGZAGj;",
    "COMBINING ALMOST EQUAL TO :ABOVE,BELOW;COMBINING CYRILLIC :DASIA PNEUMATA,HUNDRED MILLIONSd,",
    "HUNDREDtSd,KAVYKA,MILLIONSd,PALATALIZATION,PAYEROK,POKRYTIE,PSILI PNEUMATA,TEN MILLIONSd,",
    "THOUSAND MILLIONSd,TITLO,VZMET;COMBINING CYRILLICb:A,BE,BIG YUS,CHE,DE,DJERV,EF,EL,EM,EN,ER,",
    "ES,ES-TE,FITA,GHE,HA,HARDd,I,IE,IOTIFIED A,IOTIFIED BIG YUS,IOTIFIED E,KA,LITTLE YUS,",
    "MONOGRAPH UK,O,OMEGA,PE,SHA,SHCHA,SOFTd,TE,TSE,U,UKRAINIAN IE,VE,YAT,YERU,YI,YU,ZE,ZHE;",
    "COMBINING % :ABOVE,ABOVE s,ABOVE i,BELOW,BELOW s;COMBINING l :ACUTE ACCENT,BREVE,BREVEj,",
    "CIRCUMFLEXf,GRAVE ACCENT,INVERTED BREVE,INVERTED BREVEj,LOW LINE,MACRON,MACRONj,OVERLINE,",
    "i$ej,RINGj,TILDE,u LINEf,u LINEj;COMBINING GREEK :DIALYTIKA TONOS,KORONIS,PERISPOMENI,",
    "YPOGEGRAMMENI;COMBINING INVERTED :BREVE,BREVEj,BRIDGEj,l ARCHj;COMBINING KAVYKAf :s,i;",
    "COMBINING LATINbm+ :G,L,M,N,R;COMBINING LATIN mb:A,AaDIAERESIS,AE,ALPHA,AO,AV,B,BETA,C,",
    "C CEDILLA,D,E,ESH,ETH,F,FLATTENED OPEN Af,G,H,I,INSULAR D,K,L,Lal *TILDE,LONG S,M,N,O,",
    "OaDIAERESIS,OaLIGHT CENTRALIZATION q,P,R,Rj,R ROTUNDA,S,SCHWA,T,U,UaDIAERESIS,",
    "UaLIGHT CENTRALIZATION q,V,W,X,Z;COMBINING s :ANGLEf,ANGLEj,ARROWHEADf,ARROWHEADj,HALF RINGf,",
    "HALF RINGj,iej,TACKj;COMBINING ieHEAD :ABOVE,AND DOWNeHEADj,AND UPeHEADj,BELOW;",
    "COMBINING i HALF RING :ABOVE,BELOW;COMBINING u :LINEf,LINEj,TILDE;COPTIC :FRACTION ! HALF,",
    "FULL STOP,MORPHOLOGICAL DIVIDER;COPTIC+b:AKHMIMIC KHEI,ALFA,BOHAIRIC KHEI,CROSSED SHEI,DALDA,",
    "DEI,EIE,FEI,FI,GAMMA,GANGIA,HATE,HORI,IAUDA,KAPA,KHEI,KHI,KSI,L-SHAPED HA,LAULA,MI,NI,O,OOU,",
    "PI,PSI,RO,SAMPI,SHEI,SHIMA,SIMA,SOU,TAU,THETHE,UA,VIDA,ZATA;COPTIC+bCRYPTOGRAMMIC :EIE,",
    "GANGIA,NI,SHEI;COPTIC+bDIALECT-P :ALEF,HORI,KAPA,NI;COPTIC+bOLD COPTIC :AIN,DJA,ESH,GANGIA,",
    "HA,HAT,HEI,HORI,OOU,SHEI,SHIMA;COPTIC+bOLD NUBIAN :NGI,NYI,SHIMA,WAU;COPTIC COMBINING :NIf,",
    "SPIRITUS ASPER,SPIRITUS LENIS;COPTIC OLD NUBIAN :DIRECT QUESTIONn,FULL STOP,",
    "INDIRECT QUESTIONn,VERSE DIVIDER;COPTIC mb:AKHMIMIC KHEI,ALFA,BOHAIRIC KHEI,CROSSED SHEI,",
    "DALDA,DEI,EIE,FEI,FI,GAMMA,GANGIA,HATE,HORI,IAUDA,KAPA,KHEI,KHI,KSI,L-SHAPED HA,LAULA,MI,NI,",
    "O,OOU,PI,PSI,RO,SAMPI,SHEI,SHIMA,SIMA,SOU,TAU,THETHE,UA,VIDA,ZATA;",
    "COPTIC mbCRYPTOGRAMMIC :EIE,GANGIA,NI,SHEI;COPTIC mbDIALECT-P :ALEF,HORI,KAPA,NI;",
    "COPTIC mbOLD COPTIC :AIN,DJA,ESH,GANGIA,HA,HAT,HEI,HORI,OOU,SHEI,SHIMA;",
    "COPTIC mbOLD NUBIAN :NGI,NYI,SHIMA,WAU;COPTICk :KAI,KHI RO,MI RO,PI RO,SHIMA SIMA,STAUROS,",
    "TAU RO;CYRILLIC :KAVYKA,PAYEROK,THOUSANDSd;CYRILLIC+b:A,AaBREVE,AaDIAERESIS,ALEUT KA,",
    "BARRED O,BARRED OaDIAERESIS,BASHKIR KA,BE,BIG YUS,BINOCULAR O,BLENDED YUS,BROAD OMEGA,",
    "BYELORUSSIAN-UKRAINIAN I,CCHE,CHE,CHEaDESCENDER,CHEaDIAERESIS,CHEau q,CLOSED LITTLE YUS,",
    "CROSSED O,DCHE,DE,DJE,DJERV,l MONOCULAR O,l O,DWE,DZE,DZELO,DZHE,DZWE,DZZE,DZZHE,E,",
    "EaDIAERESIS,EF,EL,ELaDESCENDER,ELa[,ELa*[,ELaTAIL,EM,EMaTAIL,EN,ER,ERaTICK,ES,ESaDESCENDER,",
    "FITA,GHE,GJE,HA,HAaDESCENDER,HAa[,HAaq,HARDd,HWE,I,IaDIAERESIS,IaGRAVE,IaMACRON,IE,IEaBREVE,",
    "IEaGRAVE,IO,IOTA,IZHITSA,IZHITSAal GRAVE ACCENT,JE,KA,KAaDESCENDER,KAa[,KAaq,KAau q,",
    "KHAKASSIAN CHE,KJE,KOPPA,KSI,LHA,LITTLE YUS,LJE,MONOCULAR O,MONOGRAPH UK,NEUTRAL YER,NJE,O,",
    "OaDIAERESIS,OMEGA,OMEGAaTITLO,OT,PE,PEaDESCENDER,PEa*[,PSI,QA,RHA,ROUND OMEGA,SCHWA,",
    "SCHWAaDIAERESIS,SEMISOFTd,SHA,SHCHA,SHHA,SHHAaDESCENDER,SHORT I,SHORT IaTAIL,SHORT U,SHWE,",
    "SOFT DE,SOFT EL,SOFT EM,SOFTd,STRAIGHT U,STRAIGHT Uaq,TCHE,TE,TEaDESCENDER,TEa*[,TSE,TSHE,",
    "TSSE,TSWE,TWE,U,UaDIAERESIS,Ual ACUTE,UaMACRON,UK,UKRAINIAN IE,VE,WE,YA,YAE,YAT,YERU,",
    "YERUaBACK YER,YERUaDIAERESIS,YI,YN,YU,ZE,ZEaDESCENDER,ZEaDIAERESIS,ZEMLYA,ZHE,ZHEaBREVE,",
    "ZHEaDESCENDER,ZHEaDIAERESIS,ZHWE;CYRILLIC+bABKHASIAN :CHE,CHEaDESCENDER,DZE,HA;",
    "CYRILLIC+bENa:DESCENDER,[,s [,*[,TAIL;CYRILLIC+bGHEa:DESCENDER,*[,q,qh[,UPTURN;",
    "CYRILLIC+bIOTIFIED :A,BIG YUS,CLOSED LITTLE YUS,E,LITTLE YUS,YAT;CYRILLIC+bKOMI :DE,DJE,DZJE,",
    "LJE,NJE,SJE,TJE,ZJE;CYRILLIC+bREVERSED :DZE,TSE,YU,ZE;CYRILLIC+ LIGATURE :A IE,EN GHE,TE TSE;",
    "CYRILLICb:MULTIOCULAR O,PALOCHKA,m+ EL;CYRILLIC mb:A,AaBREVE,AaDIAERESIS,ALEUT KA,BARRED O,",
    "BARRED OaDIAERESIS,BASHKIR KA,BE,BIG YUS,BINOCULAR O,BLENDED YUS,BROAD OMEGA,",
    "BYELORUSSIAN-UKRAINIAN I,CCHE,CHE,CHEaDESCENDER,CHEaDIAERESIS,CHEau q,CLOSED LITTLE YUS,",
    "CROSSED O,DCHE,DE,DJE,DJERV,l MONOCULAR O,l O,DWE,DZE,DZELO,DZHE,DZWE,DZZE,DZZHE,E,",
    "EaDIAERESIS,EF,EL,ELaDESCENDER,ELa[,ELa*[,ELaTAIL,EM,EMaTAIL,EN,ER,ERaTICK,ES,ESaDESCENDER,",
    "FITA,GHE,GJE,HA,HAaDESCENDER,HAa[,HAaq,HARDd,HWE,I,IaDIAERESIS,IaGRAVE,IaMACRON,IE,IEaBREVE,",
    "IEaGRAVE,IO,IOTA,IZHITSA,IZHITSAal GRAVE ACCENT,JE,KA,KAaDESCENDER,KAa[,KAaq,KAau q,",
    "KHAKASSIAN CHE,KJE,KOPPA,KSI,LHA,LITTLE YUS,LJE,LONG-LEGGED DE,MONOCULAR O,MONOGRAPH UK,",
    "NARROW O,NEUTRAL YER,NJE,O,OaDIAERESIS,OMEGA,OMEGAaTITLO,OT,PALOCHKA,PE,PEaDESCENDER,PEa*[,",
    "PSI,QA,RHA,ROUND OMEGA,ROUNDED VE,SCHWA,SCHWAaDIAERESIS,SEMISOFTd,SHA,SHCHA,SHHA,",
    "SHHAaDESCENDER,SHORT I,SHORT IaTAIL,SHORT U,SHWE,SOFT DE,SOFT EL,SOFT EM,SOFTd,STRAIGHT U,",
    "STRAIGHT Uaq,TALL HARDd,TALL TE,TALL YAT,TCHE,TE,TEaDESCENDER,TEa*[,r-LEGGED TE,TSE,TSHE,",
    "TSSE,TSWE,TWE,U,UaDIAERESIS,Ual ACUTE,UaMACRON,UK,UKRAINIAN IE,UNBLENDED UK,VE,WE,WIDE ES,YA,",
    "YAE,YAT,YERU,YERUaBACK YER,YERUaDIAERESIS,YI,YN,YU,ZE,ZEaDESCENDER,ZEaDIAERESIS,ZEMLYA,ZHE,",
    "ZHEaBREVE,ZHEaDESCENDER,ZHEaDIAERESIS,ZHWE;CYRILLIC mbABKHASIAN :CHE,CHEaDESCENDER,DZE,HA;",
    "CYRILLIC mbENa:DESCENDER,[,s [,*[,TAIL;CYRILLIC mbGHEa:DESCENDER,*[,q,qh[,UPTURN;",
    "CYRILLIC mbIOTIFIED :A,BIG YUS,CLOSED LITTLE YUS,E,LITTLE YUS,YAT;CYRILLIC mbKOMI :DE,DJE,",
    "DZJE,LJE,NJE,SJE,TJE,ZJE;CYRILLIC mbREVERSED :DZE,TSE,YU,ZE;CYRILLIC m LIGATURE :A IE,EN GHE,",
    "TE TSE;DIGIT :&,FIVE,_,NINE,!,@,SIX,r,|,ZERO;ETHIOPIC SYLLABLE :BOA,CCA,CCAA,CCE,CCEE,CCHA,",
    "CCHAA,CCHE,CCHEE,CCHI,CCHO,CCHU,CCI,CCO,CCU,CHOA,COA,DDOA,DOA,GGWA,GGWE,GGWEE,GGWI,",
    "GLOTTAL OA,GYA,GYAA,GYE,GYEE,GYI,GYO,GYU,JOA,KYA,KYAA,KYE,KYEE,KYI,KYO,KYU,LOA,MOA,NOA,NYOA,",
    "PHOA,POA,QYA,QYAA,QYE,QYEE,QYI,QYO,QYU,ROA,SHOA,SOA,SSA,SSAA,SSE,SSEE,SSI,SSO,SSU,THOA,TOA,",
    "XYA,XYAA,XYE,XYEE,XYI,XYO,XYU,ZOA,ZZA,ZZAA,ZZE,ZZEE,ZZI,ZZO,ZZU;EXTENDED >-INDIC.:&,FIVE,_,",
    "NINE,!,@,SIX,r,|,ZERO;GEORGIAN+b:AEN,AN,BAN,CAN,CHAR,CHIN,CIL,DON,EN,GAN,GHAN,HAE,HAR,HE,HIE,",
    "HOE,IN,JHAN,JIL,KAN,KHAR,LAS,MAN,NAR,ON,PAR,PHAR,QAR,RAE,SAN,SHIN,TAN,TAR,UN,VIN,WE,XAN,YN,",
    "ZEN,ZHAR;GEORGIANb:AEN,AIN,AN,BAN,CAN,CHAR,CHIN,CIL,DON,ELIFI,EN,FI,GAN,GHAN,HAE,HAR,HARDd,",
    "HE,HIE,HOE,IN,JHAN,JIL,KAN,KHAR,LABIALd,LAS,MAN,NAR,ON,PAR,PHAR,QAR,RAE,SAN,SHIN,TAN,TAR,",
    "TURNED GAN,UN,VIN,WE,XAN,YN,ZEN,ZHAR;GEORGIAN MTAVRULI+b:AEN,AIN,AN,BAN,CAN,CHAR,CHIN,CIL,",
    "DON,ELIFI,EN,FI,GAN,GHAN,HAE,HAR,HARDd,HE,HIE,HOE,IN,JHAN,JIL,KAN,KHAR,LABIALd,LAS,MAN,NAR,",
    "ON,PAR,PHAR,QAR,RAE,SAN,SHIN,TAN,TAR,TURNED GAN,UN,VIN,WE,XAN,YN,ZEN,ZHAR;GEORGIAN mb:AEN,AN,",
    "BAN,CAN,CHAR,CHIN,CIL,DON,EN,GAN,GHAN,HAE,HAR,HE,HIE,HOE,IN,JHAN,JIL,KAN,KHAR,LAS,MAN,NAR,ON,",
    "PAR,PHAR,QAR,RAE,SAN,SHIN,TAN,TAR,UN,VIN,WE,XAN,YN,ZEN,ZHAR;GLAGOLITIC+b:AZU,BIG YUS,BUKY,",
    "CAUDATE CHRIVI,CHRIVI,DJERVI,DOBRO,DZELO,FITA,FRITU,GLAGOLI,HERU,I,p IZHE,IOTATED BIG YUS,",
    "IOTATED m YUS,IZHE,IZHITSA,KAKO,LATINATE MYSLITE,LJUDIJE,MYSLITE,NASHI,ONU,OTU,PE,POKOJI,",
    "RITSI,SHA,SHTA,SHTAPIC,SLOVO,m YUS,m YUSaTAIL,SPIDERY HA,TROKUTASTI A,TSI,TVRIDO,UKU,VEDE,",
    "YATI,YERI,YERU,YESTU,YO,YU,ZEMLJA,ZHIVETE;GLAGOLITIC mb:AZU,BIG YUS,BUKY,CAUDATE CHRIVI,",
    "CHRIVI,DJERVI,DOBRO,DZELO,FITA,FRITU,GLAGOLI,HERU,I,p IZHE,IOTATED BIG YUS,IOTATED m YUS,",
    "IZHE,IZHITSA,KAKO,LATINATE MYSLITE,LJUDIJE,MYSLITE,NASHI,ONU,OTU,PE,POKOJI,RITSI,SHA,SHTA,",
    "SHTAPIC,SLOVO,m YUS,m YUSaTAIL,SPIDERY HA,TROKUTASTI A,TSI,TVRIDO,UKU,VEDE,YATI,YERI,YERU,",
    "YESTU,YO,YU,ZEMLJA,ZHIVETE;GREEK :ANO TELEIA,BETAk,DASIA,KAIk,KAPPAk,KORONIS,LOWER NUMERALd,",
    "LUNATE EPSILONk,LUNATE SIGMAk,NUMERALd,OXIA,PERISPOMENI,PHIk,PIk,PROSGEGRAMMENI,PSILI,",
    "QUESTIONn,REVERSED LUNATE EPSILONk,RHOk,RHOaqk,m %TED LUNATE SIGMAk,THETAk,TONOS,VARIA,",
    "YPOGEGRAMMENI;GREEK+ :%TED LUNATE SIGMAk,KAIk,LUNATE SIGMAk,REVERSED %TED LUNATE SIGMAk,",
    "REVERSED LUNATE SIGMAk,THETAk;GREEK+b:ALPHA,ARCHAIC SAMPI,BETA,CHI,DELTA,EPSILON,ETA,GAMMA,",
    "HETA,IOTA,KAPPA,LAMDA,MU,NU,OMEGA,OMICRON,PAMPHYLIAN DIGAMMA,PHI,PI,PSI,RHO,RHOaDASIA,SAN,",
    "SHO,SIGMA,TAU,THETA,UPSILON,XI,YOT,ZETA;GREEK+bALPHAa:DASIA,MACRON,OXIA,PROSGEGRAMMENI,PSILI,",
    "TONOS,VARIA,VRACHY;GREEK+bALPHAaDASIAh:OXIA,OXIAhPROSGEGRAMMENI,PERISPOMENI,",
    "PERISPOMENIhPROSGEGRAMMENI,PROSGEGRAMMENI,VARIA,VARIAhPROSGEGRAMMENI;",
    "GREEK+bALPHAaPSILIh:OXIA,OXIAhPROSGEGRAMMENI,PERISPOMENI,PERISPOMENIhPROSGEGRAMMENI,",
    "PROSGEGRAMMENI,VARIA,VARIAhPROSGEGRAMMENI;GREEK+bEPSILONa:DASIA,DASIAhOXIA,DASIAhVARIA,OXIA,",
    "PSILI,PSILIhOXIA,PSILIhVARIA,TONOS,VARIA;GREEK+bETAa:DASIA,OXIA,PROSGEGRAMMENI,PSILI,TONOS,",
    "VARIA;GREEK+bETAaDASIAh:OXIA,OXIAhPROSGEGRAMMENI,PERISPOMENI,PERISPOMENIhPROSGEGRAMMENI,",
    "PROSGEGRAMMENI,VARIA,VARIAhPROSGEGRAMMENI;GREEK+bETAaPSILIh:OXIA,OXIAhPROSGEGRAMMENI,",
    "PERISPOMENI,PERISPOMENIhPROSGEGRAMMENI,PROSGEGRAMMENI,VARIA,VARIAhPROSGEGRAMMENI;",
    "GREEK+bIOTAa:DASIA,DASIAhOXIA,DASIAhPERISPOMENI,DASIAhVARIA,DIALYTIKA,MACRON,OXIA,PSILI,",
    "PSILIhOXIA,PSILIhPERISPOMENI,PSILIhVARIA,TONOS,VARIA,VRACHY;GREEK+bOMEGAa:DASIA,OXIA,",
    "PROSGEGRAMMENI,PSILI,TONOS,VARIA;GREEK+bOMEGAaDASIAh:OXIA,OXIAhPROSGEGRAMMENI,PERISPOMENI,",
    "PERISPOMENIhPROSGEGRAMMENI,PROSGEGRAMMENI,VARIA,VARIAhPROSGEGRAMMENI;",
    "GREEK+bOMEGAaPSILIh:OXIA,OXIAhPROSGEGRAMMENI,PERISPOMENI,PERISPOMENIhPROSGEGRAMMENI,",
    "PROSGEGRAMMENI,VARIA,VARIAhPROSGEGRAMMENI;GREEK+bOMICRONa:DASIA,DASIAhOXIA,DASIAhVARIA,OXIA,",
    "PSILI,PSILIhOXIA,PSILIhVARIA,TONOS,VARIA;GREEK+bUPSILONa:DASIA,DASIAhOXIA,DASIAhPERISPOMENI,",
    "DASIAhVARIA,DIALYTIKA,MACRON,OXIA,TONOS,VARIA,VRACHY;GREEK DASIAh:OXIA,PERISPOMENI,VARIA;",
    "GREEK DIALYTIKA :AND OXIA,AND PERISPOMENI,AND VARIA,TONOS;GREEKb:ARCHAIC KOPPA,DIGAMMA,KOPPA,",
    "SAMPI,STIGMA,YOT;GREEKbm+ :GAMMA,LAMDA,OMEGA,PI,PSI,RHO;GREEK PSILIh:OXIA,PERISPOMENI,VARIA;",
    "GREEK mb:ALPHA,ARCHAIC KOPPA,ARCHAIC SAMPI,BETA,CHI,DELTA,DIGAMMA,EPSILON,ETA,o SIGMA,GAMMA,",
    "HETA,IOTA,KAPPA,KOPPA,LAMDA,MU,NU,OMEGA,OMICRON,PAMPHYLIAN DIGAMMA,PHI,PI,PSI,RHO,RHOaDASIA,",
    "RHOaPSILI,SAMPI,SAN,SHO,SIGMA,STIGMA,TAU,THETA,UPSILON,XI,ZETA;GREEK mbALPHAa:DASIA,MACRON,",
    "OXIA,OXIAhYPOGEGRAMMENI,PERISPOMENI,PERISPOMENIhYPOGEGRAMMENI,PSILI,TONOS,VARIA,",
    "VARIAhYPOGEGRAMMENI,VRACHY,YPOGEGRAMMENI;GREEK mbALPHAaDASIAh:OXIA,OXIAhYPOGEGRAMMENI,",
    "PERISPOMENI,PERISPOMENIhYPOGEGRAMMENI,VARIA,VARIAhYPOGEGRAMMENI,YPOGEGRAMMENI;",
    "GREEK mbALPHAaPSILIh:OXIA,OXIAhYPOGEGRAMMENI,PERISPOMENI,PERISPOMENIhYPOGEGRAMMENI,VARIA,",
    "VARIAhYPOGEGRAMMENI,YPOGEGRAMMENI;GREEK mbEPSILONa:DASIA,DASIAhOXIA,DASIAhVARIA,OXIA,PSILI,",
    "PSILIhOXIA,PSILIhVARIA,TONOS,VARIA;GREEK mbETAa:DASIA,OXIA,OXIAhYPOGEGRAMMENI,PERISPOMENI,",
    "PERISPOMENIhYPOGEGRAMMENI,PSILI,TONOS,VARIA,VARIAhYPOGEGRAMMENI,YPOGEGRAMMENI;",
    "GREEK mbETAaDASIAh:OXIA,OXIAhYPOGEGRAMMENI,PERISPOMENI,PERISPOMENIhYPOGEGRAMMENI,VARIA,",
    "VARIAhYPOGEGRAMMENI,YPOGEGRAMMENI;GREEK mbETAaPSILIh:OXIA,OXIAhYPOGEGRAMMENI,PERISPOMENI,",
    "PERISPOMENIhYPOGEGRAMMENI,VARIA,VARIAhYPOGEGRAMMENI,YPOGEGRAMMENI;GREEK mbIOTAa:DASIA,",
    "DASIAhOXIA,DASIAhPERISPOMENI,DASIAhVARIA,DIALYTIKA,MACRON,OXIA,PERISPOMENI,PSILI,PSILIhOXIA,",
    "PSILIhPERISPOMENI,PSILIhVARIA,TONOS,VARIA,VRACHY;GREEK mbIOTAaDIALYTIKAh:OXIA,PERISPOMENI,",
    "TONOS,VARIA;GREEK mbOMEGAa:DASIA,OXIA,OXIAhYPOGEGRAMMENI,PERISPOMENI,",
    "PERISPOMENIhYPOGEGRAMMENI,PSILI,TONOS,VARIA,VARIAhYPOGEGRAMMENI,YPOGEGRAMMENI;",
    "GREEK mbOMEGAaDASIAh:OXIA,OXIAhYPOGEGRAMMENI,PERISPOMENI,PERISPOMENIhYPOGEGRAMMENI,VARIA,",
    "VARIAhYPOGEGRAMMENI,YPOGEGRAMMENI;GREEK mbOMEGAaPSILIh:OXIA,OXIAhYPOGEGRAMMENI,PERISPOMENI,",
    "PERISPOMENIhYPOGEGRAMMENI,VARIA,VARIAhYPOGEGRAMMENI,YPOGEGRAMMENI;GREEK mbOMICRONa:DASIA,",
    "DASIAhOXIA,DASIAhVARIA,OXIA,PSILI,PSILIhOXIA,PSILIhVARIA,TONOS,VARIA;GREEK mbUPSILONa:DASIA,",
    "DASIAhOXIA,DASIAhPERISPOMENI,DASIAhVARIA,DIALYTIKA,MACRON,OXIA,PERISPOMENI,PSILI,PSILIhOXIA,",
    "PSILIhPERISPOMENI,PSILIhVARIA,TONOS,VARIA,VRACHY;GREEK mbUPSILONaDIALYTIKAh:OXIA,PERISPOMENI,",
    "TONOS,VARIA;GREEK m REVERSED :%TED LUNATE SIGMAk,LUNATE SIGMAk;GREEK SUBSCRIPT mb:BETA,CHI,",
    "GAMMA,PHI,RHO;GREEK UPSILONa:ACUTEh[k,DIAERESISh[k,[k;HEBREW :LIGATURE ALEF LAMED,YOD x;",
    "HEBREW ACCENT :ATNAH HAFUKH,DARGA,DEHI,ETNAHTA,GERESH,GERESH MUQDAM,GERSHAYIM,ILUY,MAHAPAKH,",
    "MERKHA,MERKHA KEFULA,MUNAH,OLE,PASHTA,PAZER,QADMA,QARNEY PARA,REVIA,SEGOL,SHALSHELET,",
    "TELISHA GEDOLA,TELISHA QETANA,TEVIR,TIPEHA,YERAH BEN YOMO,YETIV,ZAQEF GADOL,ZAQEF QATAN,",
    "ZARQA,ZINOR;HEBREWb:ALEF,ALTERNATIVE AYIN,ALTERNATIVE PLUSd,AYIN,BET,BETaDAGESH,BETaRAFE,",
    "DALET,DALETaDAGESH,GIMEL,GIMELaDAGESH,HE,HEaMAPIQ,HET,KAF,KAFaDAGESH,KAFaRAFE,LAMED,",
    "LAMEDaDAGESH,MEM,MEMaDAGESH,NUN,NUNaDAGESH,PE,PEaDAGESH,PEaRAFE,QOF,QOFaDAGESH,RESH,",
    "RESHaDAGESH,SAMEKH,SAMEKHaDAGESH,SHIN,TAV,TAVaDAGESH,TET,TETaDAGESH,TSADI,TSADIaDAGESH,VAV,",
    "VAVaDAGESH,VAVaHOLAM,YOD,YODaDAGESH,YODaHIRIQ,ZAYIN,ZAYINaDAGESH;HEBREWbALEFa:MAPIQ,PATAH,",
    "QAMATS;HEBREWbo :KAF,KAFaDAGESH,MEM,NUN,PE,PEaDAGESH,TSADI;HEBREWbSHINa:DAGESH,DAGESHhSHIN %,",
    "DAGESHhSIN %,SHIN %,SIN %;HEBREWbWIDE :ALEF,DALET,o MEM,HE,KAF,LAMED,RESH,TAV;",
    "HEBREW LIGATURE YIDDISH :l VAV,l YOD,VAV YOD,YOD YOD PATAH;HEBREWn :LOWER %,MASORA #,UPPER %;",
    "HEBREW POINT :DAGESH OR MAPIQ,HATAF PATAH,HATAF QAMATS,HATAF SEGOL,HIRIQ,HOLAM,",
    "HOLAM HASER FOR VAV,JUDEO-SPANISH VARIKA,METEG,PATAH,QAMATS,QAMATS QATAN,QUBUTS,RAFE,SEGOL,",
    "SHEVA,SHIN %,SIN %,TSERE;HEBREW PUNCTUATION :GERESH,GERSHAYIM,MAQAF,NUN HAFUKHA,PASEQ,",
    "SOF PASUQ;INVERTED :EXCLAMATIONn,QUESTIONn;LATIN+b:A,AA,AE,AEaACUTE,AEaMACRON,AFRICAN D,",
    "ALPHA,ANGLICANA W,AO,AU,AV,AVav BAR,AY,B,BETA,BROKEN L,C,CHI,CLOSED INSULAR G,CON,CUATRILLO,",
    "CUATRILLOaCOMMA,D,DZ,DZaCARON,E,EGYPTOLOGICAL AIN,EGYPTOLOGICAL ALEF,ENG,ESH,ET,ETH,EZH,",
    "EZH REVERSED,EZHaCARON,F,Fa%f,Fa[,Faq,G,GAMMA,H,HALF H,HENG,HWAIR,I,IOTA,IS,J,JaCIRCUMFLEX,",
    "JaCROSSED-TAIL,Jaq,K,L,LJ,M,MaACUTE,Ma%f,Ma%j,Ma[,*SCOTS S,MIDDLE-WELSH LL,MIDDLE-WELSH V,N,",
    "NJ,O,OI,OLD POLISH O,OMEGA,OO,OPEN E,OPEN O,OU,P,Q,QaDIAGONAL q,Qaq THROUGH DESCENDER,R,",
    "R ROTUNDA,RUM ROTUNDA,S,SALTILLO,SCHWA,SCRIPT G,SHARP S,SIGMOID S,m+ I,m Qa[ TAIL,T,THORN,",
    "THORNaq,THORNaq THROUGH DESCENDER,T! FIVE,T! SIX,T! |,TRESILLO,TZ,U,U BAR,UPSILON,V,",
    "VaDIAGONAL q,Va%j,Va[,VaTILDE,VEND,VISIGOTHIC Z,VOLAPUK AE,VOLAPUK OE,VOLAPUK UE,VY,W,WYNN,X,",
    "XaDIAERESIS,Xa%f,Y,YOGH,Z;LATIN+bAa:ACUTE,BREVE,CARON,CIRCUMFLEX,DIAERESIS,DIAERESIShMACRON,",
    "%f,%fhMACRON,%j,l GRAVE,GRAVE,[f,INVERTED BREVE,MACRON,OG!K,RINGf,RINGfhACUTE,RINGj,q,TILDE;",
    "LATIN+bAaBREVEh:ACUTE,%j,GRAVE,[f,TILDE;LATIN+bAaCIRCUMFLEXh:ACUTE,%j,GRAVE,[f,TILDE;",
    "LATIN+bBa:%f,%j,FLOURISH,[,LINEj,q,TOPBAR;LATIN+bCa:ACUTE,BAR,CARON,CEDILLA,CEDILLAhACUTE,",
    "CIRCUMFLEX,%f,[,PALATAL [,q;LATIN+bDa:CARON,CEDILLA,CIRCUMFLEXj,%f,%j,[,LINEj,",
    "SHORT q OVERLAY,mbZ,mbZaCARON,q,TOPBAR;LATIN+bEa:ACUTE,BREVE,CARON,CEDILLA,CEDILLAhBREVE,",
    "CIRCUMFLEX,CIRCUMFLEXj,DIAERESIS,%f,%j,l GRAVE,GRAVE,[f,INVERTED BREVE,MACRON,MACRONhACUTE,",
    "MACRONhGRAVE,OG!K,q,TILDE,TILDEj;LATIN+bEaCIRCUMFLEXh:ACUTE,%j,GRAVE,[f,TILDE;",
    "LATIN+bGa:ACUTE,BREVE,CARON,CEDILLA,CIRCUMFLEX,%f,[,MACRON,OBLIQUE q,q;LATIN+bGLOTTAL :A,I,",
    "STOP,U;LATIN+bHa:BREVEj,CARON,CEDILLA,CIRCUMFLEX,DESCENDER,DIAERESIS,%f,%j,[,q;",
    "LATIN+bIa:ACUTE,BREVE,CARON,CIRCUMFLEX,DIAERESIS,DIAERESIShACUTE,%f,%j,l GRAVE,GRAVE,[f,",
    "INVERTED BREVE,MACRON,OG!K,q,TILDE,TILDEj;LATIN+bINSULAR :D,F,G,R,S,T;LATIN+bKa:ACUTE,CARON,",
    "CEDILLA,DESCENDER,DIAGONAL q,%j,[,LINEj,OBLIQUE q,q,qhDIAGONAL q;LATIN+bLa:ACUTE,BAR,BELT,",
    "CARON,CEDILLA,CIRCUMFLEXj,%j,%jhMACRON,l BAR,HIGH q,LINEj,*%,*TILDE,mbJ,q;LATIN+bNa:ACUTE,",
    "CARON,CEDILLA,CIRCUMFLEXj,DESCENDER,%f,%j,GRAVE,s [,LINEj,LONG i LEG,OBLIQUE q,mbJ,TILDE;",
    "LATIN+bOa:ACUTE,BREVE,CARON,CIRCUMFLEX,DIAERESIS,DIAERESIShMACRON,%f,%fhMACRON,%j,l ACUTE,",
    "l GRAVE,GRAVE,[f,HORN,INVERTED BREVE,LONG q OVERLAY,LOOP,MACRON,MACRONhACUTE,MACRONhGRAVE,",
    "*TILDE,OG!K,OG!KhMACRON,q,qhACUTE,TILDE,TILDEhACUTE,TILDEhDIAERESIS,TILDEhMACRON;",
    "LATIN+bOaCIRCUMFLEXh:ACUTE,%j,GRAVE,[f,TILDE;LATIN+bOaHORNh:ACUTE,%j,GRAVE,[f,TILDE;",
    "LATIN+bPa:ACUTE,%f,FLOURISH,[,SQUIRREL TAIL,q,q THROUGH DESCENDER;LATIN+bRa:ACUTE,CARON,",
    "CEDILLA,%f,%j,%jhMACRON,l GRAVE,INVERTED BREVE,LINEj,OBLIQUE q,q,TAIL;LATIN+bREVERSED :Ca%,E,",
    "HALF H,OPEN E;LATIN+bSa:ACUTE,ACUTEh%f,CARON,CARONh%f,CEDILLA,CIRCUMFLEX,COMMAj,%f,%j,%jh%f,",
    "[,OBLIQUE q,SHORT q OVERLAY,SWASH TAIL;LATIN+bTa:CARON,CEDILLA,CIRCUMFLEXj,COMMAj,DIAGONAL q,",
    "%f,%j,[,LINEj,RETROFLEX [,q;LATIN+bTURNED :A,ALPHA,H,INSULAR G,K,L,M,T,V;LATIN+bUa:ACUTE,",
    "BREVE,CARON,CIRCUMFLEX,CIRCUMFLEXj,DIAERESIS,DIAERESISj,%j,l ACUTE,l GRAVE,GRAVE,[f,HORN,",
    "INVERTED BREVE,MACRON,MACRONhDIAERESIS,OG!K,RINGf,q,TILDE,TILDEhACUTE,TILDEj;",
    "LATIN+bUaDIAERESISh:ACUTE,CARON,GRAVE,MACRON;LATIN+bUaHORNh:ACUTE,%j,GRAVE,[f,TILDE;",
    "LATIN+bWa:ACUTE,CIRCUMFLEX,DIAERESIS,%f,%j,GRAVE,[;LATIN+bYa:ACUTE,CIRCUMFLEX,DIAERESIS,%f,",
    "%j,GRAVE,[,[f,LOOP,MACRON,q,TILDE;LATIN+bZa:ACUTE,CARON,CIRCUMFLEX,DESCENDER,%f,%j,[,LINEj,",
    "PALATAL [,q,SWASH TAIL;LATIN+ LIGATURE :IJ,OE;LATIN EPIGRAPHICb:ARCHAIC M,I LONGA,INVERTED M,",
    "REVERSED F,REVERSED P,SIDEWAYS I;LATINb:AIN,ALVEOLAR CLICK,BIDENTAL PERCUSSIVE,",
    "BILABIAL CLICK,BILABIAL PERCUSSIVE,DENTAL CLICK,GLOTTAL STOP,GLOTTAL STOPaq,LATERAL CLICK,",
    "PHARYNGEAL VOICED FRICATIVE,RETROFLEX CLICK,REVERSED ESH LOOP,REVERSED GLOTTAL STOPaq,",
    "SINOLOGICAL %,STRETCHED C,|aq,VOICED LARYNGEAL SPIRANT,WYNN,YR;LATINbINVERTED GLOTTAL :STOP,",
    "STOPaq;LATINbm+ :A,AE,B,BARRED B,C,D,E,ETH,EZH,F,G,Ga[,H,I,INVERTED R,J,K,L,Laq,M,N,O,OE,",
    "OPEN O,OU,P,Q,R,Rai LEG,REVERSED N,REVERSED R,RUM,S,T,TURNED E,TURNED M,TURNED R,U,V,W,Y,Z;",
    "LATIN m+b:Iaq,Uaq;LATIN mb:A,A REVERSED-SCHWA,AA,AE,AEaACUTE,AEaMACRON,ALPHA,",
    "ALPHAaRETROFLEX [,ANGLICANA W,AO,AU,AV,AVav BAR,AY,B,BARRED ALPHA,BARRED E,BARRED O,",
    "BASELINE ESH,BETA,BOTTOM HALF O,BROKEN L,C,CHI,CHIaLOW s SERIF,CHIaLOW i RING,",
    "CLOSED INSULAR G,CLOSED OMEGA,CLOSED OPEN E,CLOSED REVERSED OPEN E,CON,CUATRILLO,",
    "CUATRILLOaCOMMA,D,DB DIGRAPH,DELTA,DEZH DIGRAPH,l R,l RaCROSSED-TAIL,l THORN,l WYNN,DUM,DZ,",
    "DZ DIGRAPH,DZ DIGRAPHaCURL,DZ DIGRAPHaRETROFLEX [,DZaCARON,E,EGYPTOLOGICAL AIN,",
    "EGYPTOLOGICAL ALEF,ENG,ENGaCROSSED-TAIL,ESH,ESHaCURL,ESHaPALATAL [,ESHaRETROFLEX [,ET,ETH,",
    "EZH,EZH REVERSED,F,FENG DIGRAPH,G,GAMMA,H,HALF H,HENG,HENGa[,HV,I,INVERTED ALPHA,INVERTED OE,",
    "IOTA,IOTAaq,IOTIFIED E,IS,J,JaCARON,JaCIRCUMFLEX,JaCROSSED-TAIL,Jaq,K,KRA,L,LAMBDAaq,LENIS F,",
    "LEZH,LJ,LONG S,LS DIGRAPH,LUM,LZ DIGRAPH,M,*SCOTS S,MIDDLE-WELSH LL,MIDDLE-WELSH V,MUM,N,",
    "N PRECEDED BY APOSTROPHE,NJ,NUM,O,OI,OLD POLISH O,OMEGA,OO,OU,P,PHI,Q,QaDIAGONAL q,Qa[,",
    "Qa[ TAIL,Qaq THROUGH DESCENDER,QP DIGRAPH,R,R ROTUNDA,R WITHOUT HANDLE,RAMS HORN,RUM,",
    "RUM ROTUNDA,S,SAKHA YAT,SALTILLO,SCHWA,SCHWAa[,SCHWAaRETROFLEX [,SCRIPT G,",
    "SCRIPT GaCROSSED-TAIL,SCRIPT R,SCRIPT RaRING,SHARP S,SIGMOID S,SQUAT REVERSED ESH,STIRRUP R,",
    "T,TAILLESS PHI,TC DIGRAPHaCURL,TESH DIGRAPH,THaSTRIKETHROUGH,THORN,THORNaq,",
    "THORNaq THROUGH DESCENDER,T! FIVE,T! SIX,T! |,TOP HALF O,TRESILLO,TS DIGRAPH,",
    "TS DIGRAPHaRETROFLEX [,TUM,TZ,U,U BAR,U BARaSHORT i LEG,UE,UI,UM,UO,UPSILON,UPSILONaq,V,VEND,",
    "VISIGOTHIC Z,VOLAPUK AE,VOLAPUK OE,VOLAPUK UE,VY,W,X,Y,YOGH,Z;LATIN mbAa:ACUTE,BREVE,CARON,",
    "CIRCUMFLEX,DIAERESIS,DIAERESIShMACRON,%f,%fhMACRON,%j,l GRAVE,GRAVE,[f,INVERTED BREVE,MACRON,",
    "OG!K,RETROFLEX [,i HALF RING,RINGf,RINGfhACUTE,RINGj,q,TILDE;LATIN mbAaBREVEh:ACUTE,%j,GRAVE,",
    "[f,TILDE;LATIN mbAaCIRCUMFLEXh:ACUTE,%j,GRAVE,[f,TILDE;LATIN mbBa:%f,%j,FLOURISH,[,LINEj,",
    "*TILDE,PALATAL [,q,TOPBAR;LATIN mb]LETTER :E,O,Oaq;LATIN mbCa:ACUTE,BAR,CARON,CEDILLA,",
    "CEDILLAhACUTE,CIRCUMFLEX,CURL,%f,[,PALATAL [,q;LATIN mbDa:CARON,CEDILLA,CIRCUMFLEXj,CURL,%f,",
    "%j,[,[hTAIL,LINEj,*TILDE,PALATAL [,SHORT q OVERLAY,q,TAIL,TOPBAR;LATIN mb%LESS :I,J,Jaq,",
    "Jaqh[;LATIN mbEa:ACUTE,BREVE,CARON,CEDILLA,CEDILLAhBREVE,CIRCUMFLEX,CIRCUMFLEXj,DIAERESIS,%f,",
    "%j,l GRAVE,FLOURISH,GRAVE,[f,INVERTED BREVE,MACRON,MACRONhACUTE,MACRONhGRAVE,NOTCH,OG!K,",
    "RETROFLEX [,q,TILDE,TILDEj;LATIN mbEaCIRCUMFLEXh:ACUTE,%j,GRAVE,[f,TILDE;LATIN mbEZHa:CARON,",
    "CURL,RETROFLEX [,TAIL;LATIN mbFa:%f,[,*TILDE,PALATAL [,q;LATIN mbGa:ACUTE,BREVE,CARON,",
    "CEDILLA,CIRCUMFLEX,%f,[,MACRON,OBLIQUE q,PALATAL [,q;LATIN mbGLOTTAL :A,I,STOP,U;",
    "LATIN mbHa:BREVEj,CARON,CEDILLA,CIRCUMFLEX,DESCENDER,DIAERESIS,%f,%j,[,LINEj,PALATAL [,q;",
    "LATIN mbIa:ACUTE,BREVE,CARON,CIRCUMFLEX,DIAERESIS,DIAERESIShACUTE,%j,l GRAVE,GRAVE,[f,",
    "INVERTED BREVE,MACRON,OG!K,RETROFLEX [,q,TILDE,TILDEj;LATIN mbINSULAR :D,F,G,R,S,T;",
    "LATIN mbKa:ACUTE,CARON,CEDILLA,DESCENDER,DIAGONAL q,%j,[,LINEj,OBLIQUE q,PALATAL [,q,",
    "qhDIAGONAL q;LATIN mbLa:ACUTE,BAR,BELT,CARON,CEDILLA,CIRCUMFLEXj,CURL,%j,%jhMACRON,l BAR,",
    "l *TILDE,HIGH q,INVERTED LAZY S,LINEj,*%,*RING,*TILDE,PALATAL [,RETROFLEX [,RETROFLEX [hBELT,",
    "q;LATIN mbLONG Sa:DIAGONAL q,%f,HIGH q;LATIN mbMa:ACUTE,CROSSED-TAIL,%f,%j,[,*TILDE,",
    "PALATAL [;LATIN mbNa:ACUTE,CARON,CEDILLA,CIRCUMFLEXj,CROSSED-TAIL,CURL,DESCENDER,%f,%j,GRAVE,",
    "s [,LINEj,LONG i LEG,*TILDE,OBLIQUE q,PALATAL [,RETROFLEX [,TILDE;LATIN mbOa:ACUTE,BREVE,",
    "CARON,CIRCUMFLEX,DIAERESIS,DIAERESIShMACRON,%f,%fhMACRON,%j,l ACUTE,l GRAVE,GRAVE,[f,HORN,",
    "INVERTED BREVE,LONG q OVERLAY,LOOP,LOW RING INSIDE,MACRON,MACRONhACUTE,MACRONhGRAVE,OG!K,",
    "OG!KhMACRON,q,qhACUTE,TILDE,TILDEhACUTE,TILDEhDIAERESIS,TILDEhMACRON;",
    "LATIN mbOaCIRCUMFLEXh:ACUTE,%j,GRAVE,[f,TILDE;LATIN mbOaHORNh:ACUTE,%j,GRAVE,[f,TILDE;",
    "LATIN mbOPEN :E,EaRETROFLEX [,O,OaRETROFLEX [,Oaq,OE;LATIN mbPa:ACUTE,%f,FLOURISH,[,*TILDE,",
    "PALATAL [,SQUIRREL TAIL,q,q THROUGH DESCENDER;LATIN mbRa:ACUTE,CARON,CEDILLA,CROSSED-TAIL,%f,",
    "%j,%jhMACRON,l GRAVE,FISH[,FISH[h*TILDE,INVERTED BREVE,LINEj,LONG LEG,*TILDE,OBLIQUE q,",
    "PALATAL [,q,TAIL;LATIN mbREVERSED :Ca%,E,HALF H,OPEN E,OPEN Ea[,OPEN EaRETROFLEX [,RaFISH[;",
    "LATIN mbSa:ACUTE,ACUTEh%f,CARON,CARONh%f,CEDILLA,CIRCUMFLEX,COMMAj,%f,%j,%jh%f,[,*TILDE,",
    "OBLIQUE q,PALATAL [,SHORT q OVERLAY,SWASH TAIL;LATIN mbSIDEWAYS :DIAERESIZED U,O,Oaq,OPEN O,",
    "TURNED M,U;LATIN mbTa:CARON,CEDILLA,CIRCUMFLEXj,COMMAj,CURL,DIAERESIS,DIAGONAL q,%f,%j,[,",
    "LINEj,*TILDE,PALATAL [,RETROFLEX [,q;LATIN mbTURNED :A,AE,ALPHA,DELTA,E,G,H,HaFISH[,",
    "HaFISH[hTAIL,I,INSULAR G,K,L,M,MaLONG LEG,O OPEN-O,O OPEN-Oaq,OE,OEav q,OEaq,OPEN E,R,Ra[,",
    "RaLONG LEG,Ra*TILDE,RaTAIL,T,UI,V,W,Y;LATIN mbUa:ACUTE,BREVE,CARON,CIRCUMFLEX,CIRCUMFLEXj,",
    "DIAERESIS,DIAERESISj,%j,l ACUTE,l GRAVE,GRAVE,[f,HORN,INVERTED BREVE,s [,MACRON,",
    "MACRONhDIAERESIS,OG!K,RETROFLEX [,RINGf,SHORT i LEG,q,TILDE,TILDEhACUTE,TILDEj;",
    "LATIN mbUaDIAERESISh:ACUTE,CARON,GRAVE,MACRON;LATIN mbUaHORNh:ACUTE,%j,GRAVE,[f,TILDE;",
    "LATIN mbVa:CURL,DIAGONAL q,%j,[,PALATAL [,i [,TILDE;LATIN mbWa:ACUTE,CIRCUMFLEX,DIAERESIS,%f,",
    "%j,GRAVE,[,RINGf;LATIN mbXa:DIAERESIS,%f,LONG s LEG,LONG s LEGhLOW i RING,LONG s LEGaSERIF,",
    "LOW i RING,PALATAL [;LATIN mbYa:ACUTE,CIRCUMFLEX,DIAERESIS,%f,%j,GRAVE,[,[f,LOOP,MACRON,",
    "RINGf,SHORT i LEG,q,TILDE;LATIN mbZa:ACUTE,CARON,CIRCUMFLEX,CURL,DESCENDER,%f,%j,[,LINEj,",
    "*TILDE,PALATAL [,RETROFLEX [,q,SWASH TAIL;LATIN m LIGATURE :FF,FFI,FFL,FI,FL,IJ,LONG S T,OE,",
    "ST;LATIN SUBSCRIPT mb:I,J,R,U,V;s :CURLYz,PARENTHESIS,=z;MANDAIC :AFFRICATIONn,GEMINATIONn,",
    "PUNCTUATION,VOCALIZATIONn;MANDAICb:AB,AD,AG,AH,AIN,AK,AKSA,AL,AM,AN,AP,AQ,AR,AS,ASH,ASZ,AT,",
    "ATT,AZ,DUSHENNA,HALQA,IN,IT,KAD,USHENNA;MODIFIERb:ACUTE ACCENT,APOSTROPHE,BEGIN HIGH T!,",
    "BEGIN LOW T!,CENTRED s HALF RING,CENTRED i HALF RING,CIRCUMFLEX ACCENT,COLON,CROSS ACCENT,",
    "CYRILLIC EN,CYRILLIC HARDd,CYRILLIC SOFTd,% v BAR,% SLASH,% u BAR,l APOSTROPHE,l PRIME,",
    "DOWNeHEAD,DOWN TACK,END HIGH T!,END LOW T!,GEORGIAN NAR,GLOTTAL STOP,GRAVE ACCENT,",
    "HALF TRIANGULAR COLON,HIGH %TED s-STEM T! BAR,HIGH %TED T! BAR,HIGH s-STEM T! BAR,",
    "HIGH T! BAR,seHEAD,s HALF RING,s TACK,LOWER i CORNER ANGLE,MACRON,MID %TED s-STEM T! BAR,",
    "MID %TED T! BAR,MID s-STEM T! BAR,MID T! BAR,*l ACUTE ACCENT,*l GRAVE ACCENT,*GRAVE ACCENT,",
    "MINUSd,OPEN SHELF,PLUSd,PRIME,REVERSED COMMA,REVERSED GLOTTAL STOP,RHOTIC [,ieHEAD,",
    "i HALF RING,i TACK,SHELF,SHORT EQUALSd,STRESShHIGH T!,STRESShLOW T!,TRIANGULAR COLON,",
    "TURNED COMMA,UNASPIRATED,UPeHEAD,UP TACK,US,u LINE,VOICING,YANG DEPARTING T!n,",
    "YIN DEPARTING T!n;MODIFIERbCAPITAL :A,AE,B,BARRED B,C,D,E,F,G,H,Haq,I,J,K,L,M,N,O,OU,P,Q,R,",
    "REVERSED E,REVERSED N,T,U,V,W;MODIFIERbCHINESE T! :YANG PING,YANG QU,YANG RU,YANG SHANG,",
    "YIN PING,YIN QU,YIN RU,YIN SHANG;MODIFIERbEXTRA-HIGH :%TED s-STEM T! BAR,%TED T! BAR,",
    "s-STEM T! BAR,T! BAR;MODIFIERbEXTRA-LOW :%TED s-STEM T! BAR,%TED T! BAR,s-STEM T! BAR,T! BAR;",
    "MODIFIERbLOW :ACUTE ACCENT,CIRCUMFLEX ACCENT,%TED s-STEM T! BAR,%TED T! BAR,DOWNeHEAD,",
    "GRAVE ACCENT,INVERTED EXCLAMATIONn,se,seHEAD,s-STEM T! BAR,MACRON,ieHEAD,RING,TILDE,T! BAR,",
    "UPeHEAD,u LINE;MODIFIERbRAISED :COLON,DOWNe,EXCLAMATIONn,INVERTED EXCLAMATIONn,UPe;",
    "MODIFIERbm :A,AIN,ALPHA,B,BARRED O,BETA,BOTTOM HALF O,C,CaCURL,CHI,D,DELTA,%LESS Jaq,E,ENG,",
    "ESH,ETH,EZH,F,G,GAMMA,GREEK GAMMA,GREEK PHI,H,Ha[,HENG,Iaq,IOTA,J,JaCROSSED-TAIL,K,L,",
    "LaINVERTED LAZY S,La*TILDE,LaPALATAL [,LaRETROFLEX [,LIGATURE OE,M,Ma[,Nas [,NaRETROFLEX [,O,",
    "OPEN E,OPEN O,P,PHI,R,REVERSED GLOTTAL STOP,REVERSED OPEN E,S,Sa[,SCHWA,SCRIPT G,SIDEWAYS U,",
    "T,TaPALATAL [,THETA,TOP HALF O,U,U BAR,Uas [,UPSILON,V,Va[,W,X,Y,Z,ZaCURL,ZaRETROFLEX [;",
    "MODIFIERbm+ :I,Iaq,INVERTED R,L,N,U;MODIFIERbm TURNED :A,AE,ALPHA,H,I,M,MaLONG LEG,OPEN E,R,",
    "Ra[,V,W;NKO :COMMA,DANTAYALAN,DOROMEd,EXCLAMATIONn,HIGH T! APOSTROPHE,LAJANYALAN,",
    "LOW T! APOSTROPHE,TAMANd;NKO COMBINING :l %f,LONG DESCENDING T!,LONG HIGH T!,LONG LOW T!,",
    "LONG RISING T!,NASALIZATIONn,SHORT HIGH T!,SHORT LOW T!,SHORT RISING T!;NKO.:&,FIVE,_,NINE,!,",
    "@,SIX,r,|,ZERO;NKOb:A,BA,CHA,DA,DAGBASINNA,E,EE,FA,GBA,HA,I,JA,JONA CHA,JONA JA,JONA RA,KA,",
    "LA,MA,N,NA,NA WOLOSO,NYA,NYA WOLOSO,O,OO,PA,RA,RRA,SA,TA,U,WA,YA;NKOk :GBAKURUNEN,OO DENNEN;",
    "ORNATE :s PARENTHESIS,i PARENTHESIS;i :CURLYz,PARENTHESIS,=z;SAMARITANb:ALAF,BAA,BIT,DALAT,",
    "FI,GAMAN,IN,IT,IY,KAAF,LABAT,MIM,NUN,QUF,RISH,SHAN,SINGAAT,TAAF,TIT,TSAADIY,YUT,ZEN;",
    "SAMARITANn :DAGESH,EPENTHETIC YUT,IN,IN-ALAF,NEQUDAA,OCCLUSION;",
    "SAMARITAN MODIFIERb:EPENTHETIC YUT,I,SHORT A;SAMARITAN PUNCTUATION :AFSAAQ,ANGED,ANNAAU,",
    "ARKAANU,ATMAAU,BAU,MELODIC QITSA,NEQUDAA,QITSA,SHIYYAALAA,SOF MASHFAAT,TURU,ZAEF,ZIQAA;",
    "SAMARITAN VOWELd :A,AA,E,I,LONG A,LONG AA,LONG E,LONG I,LONG U,O,OVERLONG A,OVERLONG AA,",
    "SHORT A,SUKUN,U;SUPERSCRIPT :!,r,|;SYRIAC :ABBREVIATIONn,BARREKH,CONTRACTION,",
    "END OF PARAGRAPH,ESASAf,ESASAj,FEMININE %,HBASAf,HBASAj,HBASA-ESASA %TED,v COLON,MUSIC,",
    "QUSHSHAYA,RBASAf,RBASAj,RUKKAKHA,RWAHA;SYRIAC COLON SKEWED :s,i;SYRIAC %TED ZLAMA :ANGULAR,v;",
    "SYRIAC HARKLEAN :ASTERISCUS,METOBELUS,OBELUS;SYRIACb:ALAPH,BETH,DALATH,%LESS DALATH RISH,E,",
    "o SEMKATH,GAMAL,GAMAL GARSHUNI,HE,HETH,KAPH,LAMADH,MIM,NUN,PE,PERSIAN BHETH,PERSIAN DHALATH,",
    "PERSIAN GHAMAL,QAPH,REVERSED PE,RISH,SADHE,SEMKATH,SHIN,SOGDIAN FE,SOGDIAN KHAPH,",
    "SOGDIAN ZHAIN,SUPERSCRIPT ALAPH,TAW,TETH,TETH GARSHUNI,WAW,YUDH,YUDH HE,ZAIN;",
    "SYRIACbMALAYALAM :BHA,JA,LLA,LLLA,NGA,NNA,NNNA,NYA,RA,SSA,TTA;SYRIAC OBLIQUE LINE :ABOVE,",
    "BELOW;SYRIAC PTHAHA :ABOVE,BELOW,%TED;SYRIAC SUBLINEAR :COLON,COLON SKEWED i,FULL STOP;",
    "SYRIAC SUPRALINEAR :COLON,COLON SKEWED s,FULL STOP;SYRIAC r %S :ABOVE,BELOW;",
    "SYRIAC | u %S :ABOVE,BELOW;SYRIAC ZQAPHA :ABOVE,BELOW,%TED;THAANA :AABAAFILI,ABAFILI,EBEFILI,",
    "EEBEEFILI,EYBEYFILI,IBIFILI,OABOAFILI,OBOFILI,OOBOOFILI,SUKUN,UBUFILI;THAANAb:AINU,ALIFU,BAA,",
    "CHAVIYANI,DAADHU,DAVIYANI,DHAALU,FAAFU,GAAFU,GHAINU,GNAVIYANI,HAA,HHAA,JAVIYANI,KAAFU,KHAA,",
    "LAAMU,LHAVIYANI,MEEMU,NAA,NOONU,PAVIYANI,QAAFU,RAA,SAADHU,SEENU,SHAVIYANI,SHEENU,TAVIYANI,",
    "THAA,THAALU,TO,TTAA,VAAVU,WAAVU,YAA,ZAA,ZAVIYANI,ZO;TIFINAGH :CONSONANT JOINER,",
    "MODIFIERbLABIALIZATIONn,SEPARATORn;TIFINAGHb:AHAGGAR YAZH,AYER YAGH,BERBER ACADEMY YAH,",
    "BERBER ACADEMY YAJ,TAWELLEMET YAZ,YA,YAA,YAB,YABH,YACH,YAD,YADD,YADDH,YADH,YAF,YAG,YAGH,",
    "YAGHH,YAH,YAHH,YAJ,YAK,YAKH,YAKHH,YAL,YAM,YAN,YAP,YAQ,YAR,YARR,YAS,YASH,YASS,YAT,YATH,YATT,",
    "YAV,YAW,YAY,YAZ,YAZH,YAZZ,YE,YEY,YI,YO,YU;TIFINAGHbTUAREG :YAGH,YAGN,YAH,YAK,YAKH,YANG,YAQ,",
    "YAZH;VULGAR FRACTION :! HALF,! QUARTER,r QUARTERS"]

end BlockQuery.Text.CharacterName
