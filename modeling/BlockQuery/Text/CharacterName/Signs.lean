/-!
# Names of signs

The names of punctuation, arrows, mathematical signs, box drawings and other signs.
The lines make up one text, of groups of names between semicolons: what the names of
a group have in common, a colon, and their endings. Small letters and other signs
stand for words.
-/

namespace BlockQuery.Text.CharacterName

/-- The names of punctuation, arrows, mathematical signs, box drawings and other signs. -/
def signs : List String :=
  [":AC CURRENT,ACCOUNT OF,ACUTE ANGLE,ADDRESSED TO THE SUBJECT,ADI SHAKTI,ADMETOS,AIRPLANE,",
    "AKTIESELSKAB,ALARM CLOCK,ALEFk,ALEMBIC,ALTERNATE !-WAY s WAY TRAFFIC,ALTERNATIVE KEYk,",
    "AMALGAMATION OR COPRODUCT,ANCHOR,ANDa%,ANGLE,ANGSTROMd,ANKH,APOLLON,APPROACHES THE LIMIT,",
    "AQUARIUS,ARC,ARIES,ASCENDING NODE,ASSERTION,ASTERISK OPERATOR,ASTERISM,ASTRAEA,",
    "ASTRONOMICALk FOR URANUS,ASYMPTOTICALLY EQUAL TO,ATOMk,AUSTRALd,",
    "BACK-TILTED SHADOWED WHITE i$e,BALLOON-SPOKED ASTERISK,BASEBALL,BECAUSE,BELLk,",
    "BENTe /DOWN$ THEN NORTH EAST,BETk,BETWEEN,BIOHAZARDd,BITCOINd,BLANKk,BOWTIE,",
    "BRAILLE PATTERN BLANK,BROKEN #aNORTHWESTe,BULLET,BULLET OPERATOR,BULLSEYE,CADA UNA,CADUCEUS,",
    "CANCER,CAPITULUM,CAPRICORN,CAR SLIDING,CARE OF,CARET,CARET INSERTION POINT,CASTLE,CAUTIONd,",
    "CEDId,CENTRE LINEk,CERES,CHAINS,CHARACTER TIE,CHECKn,CHI RHO,CHIRON,CHURCH,",
    "# DIVIDED BY v BARhTOP HALF DIVIDED BY u BAR,CIRCULATION FUNCTION,CLEAR SCREENk,CLOSE UP,",
    "CLOUD,COFFIN,COMET,COMMERCIAL MINUSd,COMPLEMENT,COMPOSITIONk,CONGRUENTa%f,CONICAL TAPER,",
    "CONJUNCTION,CONTINUOUS UNDERLINEk,CONTOUR INTEGRAL,CORNISH VERSE DIVIDER,CORRESPONDS TO,",
    "COUNTERBORE,COUNTERSINK,CROSSED SWORDS,CROSSING LANES,CRUZEIROd,CUBE ROOT,CUP ON ] =,CUPIDO,",
    "CURVED STEM PARAGRAPHd ORNAMENT,CYLINDRICITY,DAGGER,DALETk,DARK SHADE,DASHas UPTURN,",
    "DELTA EQUAL TO,DESCENDING NODE,DIAMETERd,DIAMOND OPERATOR,DIFFERENCE BETWEEN,",
    "DIMENSION ORIGIN,DINGBAT #D SANS-SERIF NUMBER TEN,DIRECT CURRENTkc |,DISABLED CAR,",
    "DISCONTINUOUS UNDERLINEk,DITTOn,DIVIDES,DIVORCEk,DONGd,l-ENDED MULTIMAP,DRACHMAd,",
    "DRAFTING POINT i$e,DRIVE SLOWd,EARTH,EARTH GROUND,EAST SYRIAC CROSS,EDITORIAL CORONIS,",
    "&H NOTE,EJECTk,ELECTRICe,ELECTRICAL INTERSECTION,ELEMENT OF,EMPHASISk,EMPTY SET,END OF PROOF,",
    "ENTERk,ENVELOPE,EQUIANGULAR TO,ESTIMATEDk,ESTIMATES,EULER CONSTANT,EUROd,EURO-CURRENCYd,",
    "EXCESS,EXCLAMATION QUESTIONn,FACSIMILEd,FARSIk,FEMALEd,FERRY,FINITE PART INTEGRAL,FISHEYE,",
    "FLAG IN HOLE,FLATNESS,FLEUR-DE-LIS,FLORAL HEART,FLOWER,FLOWER PUNCTUATIONn,FOR ALL,FORCES,",
    "FORKED PARAGRAPHOS,FORKING,FOUNTAIN,_-PER-EM SPACE,_TH ROOT,FRENCH FRANCd,",
    "FRONT-TILTED SHADOWED WHITE i$e,FROWN,FUEL PUMP,FUNCTION APPLICATION,FUNERAL URN,FUSE,GEAR,",
    "GEMINI,GEOMETRIC PROPORTION,GERMAN PENNYd,GETAn,GIMELk,GLEICH STARK,GROUPn,GUARANId,HADES,",
    "HAIR SPACE,HEADST! GRAVEYARDk,HELLSCHREIBER PAUSEk,HELMk,HELMETaWHITE CROSS,",
    "HERMITIAN CONJUGATE MATRIX,HIGH VOLTAGEd,HISTORIC SITE,HOMOTHETIC,HOURGLASS,",
    "HOURGLASSaFLOWING SAND,HOUSE,HRYVNIAd,HYGIEA,HYPHEN,HYPHENATION POINT,HYPODIASTOLE,",
    "HYSTERESISk,ICE SKATE,INCOMPLETE INFINITY,INCREASES AS,INCREMENT,INDIAN RUPEEd,INFINITY,",
    "INFINITY NEGATEDau BAR,INFORMATION SOURCE,INSERTIONk,INTEGRAL,INTERCALATE,INTERIOR PRODUCT,",
    "INTERLOCKED FEMALEhMALEd,INTERROBANG,INTERSECTION,JOIN,JUNO,JUPITER,KELVINd,KEYBOARD,KIPd,",
    "KOREAN STANDARDk,KRONOS,L B BARk,LARId,LAST QUARTER MOON,s-HANDED INTERLACED PENTAGRAM,",
    "s-SHADED WHITE i$e,s-SIDE ARC ANTICLOCKWISEe,LEO,LIBRA,LIGHTNING,LIMITED LIABILITYd,",
    "LINE SEPARATOR,LIRAd,LIVRE TOURNOISd,LOZENGE,LOZENGE DIVIDED BY v RULE,MALTESE CROSS,MANATd,",
    "MAPk FOR LIGHTHOUSE,MARRIAGEk,MASUn,MERCURY,MIDLINE v ELLIPSIS,MILLd,MINUS-OR-PLUSd,MINY,",
    "MODELS,MODULO | SUM,MONOSTABLEk,MOUNTAIN,MULTIMAP,MULTIPLICATION X,MULTISET,NABLA,NAIRAd,",
    "NAND,NARROW NO-BREAK SPACE,NATIONAL.SHAPES,NEGATED l u BAR l i TURNSTILE,NEPTUNE,NEPTUNEc |,",
    "NESSUS,NEUTER,NEW SHEQELd,NEXT PAGE,NO ENTRY,NOMINAL.SHAPES,NON-BREAKING HYPHEN,NONFORKING,",
    "NOR,NORDICnd,NUMEROd,OBJECT REPLACEMENT CHARACTER,OBLIQUE HYPHEN,OBSERVER EYEk,OHMd,",
    "OPEN-OUTLINED i$e,OPHIUCHUS,OPPOSITION,OPTION KEY,ORa% INSIDE,ORIGINAL OF,ORTHODOX CROSS,",
    "OUNCEd,OVERLINE,PALLAS,PALM BRANCH,PARAGRAPH SEPARATOR,PARAGRAPHOS,PARAGRAPHUSn,",
    "PART ALTERNATIONn,PARTIAL DIFFERENTIAL,PARTIALLY-RECYCLED PAPERk,PARTNERSHIPd,PASSEDk,",
    "PASSIVE-PULL-DOWN-OUTPUTk,PASSIVE-PULL-UP-OUTPUTk,PEACEk,PENCIL,PENTAGRAM,PERMANENT PAPERd,",
    "PERPENDICULAR,PERPENDICULARaS,PERSONaBALL,PERSPECTIVE,PESETAd,PESOd,PHOLUS,PICK,",
    "PINWHEEL STAR,PISCES,PITCHFORK,PITCHFORKaTEE TOP,PLACE OF INTERESTd,PLUTO,POSEIDON,",
    "POSITION INDICATOR,PRECEDES,PRESCRIPTION TAKE,PREVIOUS PAGE,PRIME,PRINT SCREENk,PROJECTIVE,",
    "PROPERTY LINE,PROPORTION,PROPORTIONAL TO,PROSERPINA,PUNCTUATION SPACE,PUNCTUS ELEVATUSn,",
    "QUARTER NOTE,QUATERNION INTEGRAL OPERATOR,QUESTION EXCLAMATIONn,QUESTI!D EQUAL TO,QUINCUNX,",
    "RADICALk BOTTOM,RADIOACTIVEd,RAIN,RATIO,RECYCLED PAPERk,REFERENCEn,REPLACEMENT CHARACTER,",
    "RESPONSE,i-HANDED INTERLACED PENTAGRAM,i-SHADED WHITE i$e,i-SIDE ARC CLOCKWISEe,",
    "iHAND INTERIOR PRODUCT,RUBLEd,RULE-DELAYED,RUPEEd,S IN x,SAGITTARIUS,SAILBOAT,SALTIRE,SATURN,",
    "SCALES,SCORPIUS,SCRUPLE,SECTOR,SEDNA,SEGMENT,SEMIDIRECT PRODUCTaBOTTOM CLOSED,SEMISEXTILE,",
    "SEPARATEDk,SERVICEn,SESAME %,SESQUIQUADRATE,SET MINUS,SEXTILE,SHAMROCK,SHINTO SHRINE,",
    "SHOULDERED OPEN BOX,SHUFFLE PRODUCT,SINE WAVE,SIX-PER-EM SPACE,SIXTEEN POINTED ASTERISK,",
    "SKIER,SKULLhCROSSB!S,SLOPE,SMASH PRODUCT,SMILE,SNOWFLAKE,SNOWMAN,SNOWMAN WITHOUT SNOW,",
    "SOCCER BALL,SOFTWARE-FUNCTIONk,SOLIDUSaOVERBAR,SOMd,SOUND RECORDING COPYi,SPARKLE,SPARKLES,",
    "SPESMILOd,SPHERICAL ANGLE,SQUAT ] i$e,STENOGRAPHIC FULL STOP,STOPWATCH,STRAIGHTNESS,",
    "STRESS OUTLINED WHITE STAR,STRICTLY EQUIVALENT TO,SUCCEEDS,SUN,SUN BEHIND CLOUD,",
    "SURFACE INTEGRAL,SWUNG DASH,SYMMETRY,TAPE DRIVE,TAURUS,TEARDROP-BARBED i$e,",
    "TEARDROP-SPOKED ASTERISK,TENGEd,TENT,THEREFORE,THERMODYNAMIC,THIN SPACE,r-EM DASH,",
    "r-PER-EM SPACE,THUNDER CLOUDhRAIN,THUNDERSTORM,TIE OVER INFINITY,TIGHT TRIFOLIATE SNOWFLAKE,",
    "TILDE OPERATOR,TIMER CLOCK,TINY,TOTAL RUNOUT,TRADEnd,TRANSPLUTO,TRANSVERSAL INTERSECTION,",
    "x-HEADED i$e,TRIANGULAR BULLET,TRICOLON,TRUE,TRUE LIGHT MOON ARTA,TUGRIKd,TURKISH LIRAd,",
    "TWELVE POINTED ] STAR,|-EM DASH,UMBRELLA,UNCERTAINTYd,UNDERTIE,UNDOk,UNION,",
    "UNION BESIDEhJOINEDaUNION,UNITEDk,UNIVERSAL RECYCLINGk,UNMARRIED PARTNERSHIPk,URANUS,",
    "VECTOR OR CROSS PRODUCT,VERSICLE,VESTA,VICTORY HAND,VIEWDATA =,VIRGO,VOLUME INTEGRAL,",
    "VULCANUS,WARNINGd,WATCH,WAVE DASH,WEDGE-TAILED i$e,WEST SYRIAC CROSS,WHEEL OF DHARMA,",
    "WHEELCHAIRk,WHITE-FEATHERED i$e,WIGGLY u LINE,WONd,WREATH PRODUCT,WRITING HAND,",
    "X IN A RECTANGLE BOX,XOR,YIN YANG,ZEUS;ACTIVATE :>c SHAPING,SYMMETRIC SWAPPING;",
    "ALL :AROUND-PROFILE,EQUAL TO;ALMOST EQUAL :OR EQUAL TO,TO,TOaCIRCUMFLEX ACCENT;",
    "ANGLEa:S INSIDE,UNDERBAR;ANTICLOCKWISE :CLOSED #e,CONTOUR INTEGRAL,GAPPED #e,INTEGRATION,",
    "OPEN #e,TOP SEMI#e;ANTICLOCKWISE x-HEADED :BOTTOM U-SHAPEDe,s U-SHAPEDe,OPEN #e,i U-SHAPEDe,",
    "TOP U-SHAPEDe;APL FUNCTIONALk :ALPHA,ALPHA UNDERBAR,BACKSLASH BAR,COMMA BAR,DEL DIAERESIS,",
    "DEL STILE,DEL TILDE,DELTA STILE,DELTA UNDERBAR,DIAMOND UNDERBAR,DOWN CARET TILDE,",
    "DOWN SHOE STILE,DOWN TACK JOT,DOWN TACK UNDERBAR,DOWN$ VANE,EPSILON UNDERBAR,",
    "GREATER-THAN DIAERESIS,I-BEAM,IOTA,IOTA UNDERBAR,JOT DIAERESIS,JOT UNDERBAR,s SHOE STILE,",
    "s$ VANE,OMEGA,OMEGA UNDERBAR,QUAD,QUOTE QUAD,QUOTE UNDERBAR,RHO,i$ VANE,SEMICOLON UNDERBAR,",
    "SLASH BAR,SQUISH QUAD,STAR DIAERESIS,STILE TILDE,TILDE DIAERESIS,UP CARET TILDE,UP SHOE JOT,",
    "UP TACK DIAERESIS,UP TACK JOT,UP TACK OVERBAR,UP$ VANE,ZILDE;APL FUNCTIONALk # :BACKSLASH,",
    "DIAERESIS,JOT,STAR,STILE,UNDERBAR;APL FUNCTIONALk QUAD :BACKSLASH,#,COLON,DEL,DELTA,DIAMOND,",
    "DIVIDE,DOWN CARET,DOWN$e,EQUAL,GREATER-THAN,JOT,s$e,LESS-THAN,NOT EQUAL,QUESTION,i$e,SLASH,",
    "UP CARET,UP$e;APPROXIMATELY :BUT NOT ACTUALLY EQUAL TO,EQUAL OR EQUAL TO,EQUAL TO,",
    "EQUAL TO OR THE IMAGE OF;ARROW /DOWN$ THEN CURVING :s$,i$;ARROW /i$ THEN CURVING :DOWN$,UP$;",
    "BACKSLANTED SOUTHea:[ED TAIL,v TAIL;BALLOT :BOX,X;BALLOT BOXa:CHECK,LIGHT X,X;",
    "BEAMED :&H NOTES,SIXTEENTH NOTES;BENZENE :RING,RINGa#;BIG :REVERSE SOLIDUS,SOLIDUS;] :BOWTIE,",
    "CENTRE WHITE STAR,#,# FOR RECORD,CLUB SUIT,CROSS ON SHIELD,DIAMOND,DOWN$ EQUILATERALeHEAD,",
    "FLAG,FLORETTE,_ POINTED STAR,HEART SUIT,HEXAGON,v ELLIPSE,HOURGLASS,LARGE #,LARGE =,",
    "s LANE MERGE,s /INDEX,LOWER s x,LOWER i x,LOZENGE,MOON LILITH,NIB,OCTAGON,PARALLELOGRAM,",
    "PENTAGON,QUESTIONn ORNAMENT,RECTANGLE,i /INDEX,SAFETY SCISSORS,SCISSORS,SHOGI PIECE,",
    "SMILING FACE,SNOWMAN,SPADE SUIT,=,= CENTRED,= FOR STOP,STAR,SUNaRAYS,TELEPH!,TRUCK,",
    "|-WAY s WAY TRAFFIC,UNIVERSAL RECYCLINGk,UPPER s x,UPPER i x,UP$ EQUILATERALeHEAD,VERY m =;",
    "] CHESS :BISHOP,KING,KNIGHT,PAWN,QUEEN,ROOK;] #a:DOWNe,| WHITE %S,WHITE % i;",
    "] CURVED DOWN$h:s$e,i$e;] CURVED s$h:DOWN$e,UP$e;] CURVED i$h:DOWN$e,UP$e;] CURVED UP$h:s$e,",
    "i$e;] DIAMOND :CENTRED,MINUS WHITE X,ON CROSS,SUIT,WITH DOWNe;] DOWN-/:l x,m x,x;",
    "] DRAUGHTS :KING,MAN;] s-/:l x,l xau BAR,POINTER,m x,x;] s$ :BULLET,EQUILATERALeHEAD;",
    "] MEDIUM :DIAMOND,DOWN-/x,DOWN-/x CENTRED,s-/x,s-/x CENTRED,LOZENGE,i-/x,i-/x CENTRED,m =,=,",
    "UP-/x,UP-/x CENTRED;] i-/:l x,l xau BAR,PENTAGON,POINTER,m x,x,xal u BAR;] i$ :ARROW,",
    "ARROWHEAD,BULLET,EQUILATERALeHEAD;] m :DIAMOND,LOZENGE,=,STAR;] UP-/:l x,m x,x;] u :ELLIPSE,",
    "RECTANGLE;]-FEATHERED :NORTH EASTe,i$e,SOUTH EASTe;]-LETTER+ :C,H,I,R,Z;",
    "BOTTOM :ARC ANTICLOCKWISEe,CURLYz,PARENTHESIS,=z,=z OVER TOP =z,TORTOISE SHELLz;",
    "BOTTOM HALF :] #,INTEGRAL,s PARENTHESIS,i PARENTHESIS;BOTTOM s :CORNER,CROP,HALFz;",
    "BOTTOM i :CORNER,CROP,HALFz;BOWTIEa:s HALF ],i HALF ];BOX DRAWINGS :s DOWN HEAVYhi UP LIGHT,",
    "s UP HEAVYhi DOWN LIGHT,i DOWN HEAVYhs UP LIGHT,i UP HEAVYhs DOWN LIGHT;",
    "BOX DRAWINGS l :DOWNhv,DOWNhs,DOWNhi,v,UPhv,UPhs,UPhi,u;BOX DRAWINGS l uh:v,s,i;",
    "BOX DRAWINGS DOWN lh:v SINGLE,s SINGLE,i SINGLE;BOX DRAWINGS DOWN HEAVYh:v LIGHT,s LIGHT,",
    "s UP LIGHT,i LIGHT,i UP LIGHT,UP v LIGHT;BOX DRAWINGS DOWN LIGHTh:v HEAVY,s HEAVY,s UP HEAVY,",
    "i HEAVY,i UP HEAVY,UP v HEAVY;BOX DRAWINGS DOWN SINGLEh:v l,s l,i l;",
    "BOX DRAWINGS HEAVY :l DASH v,l DASH u,DOWN,DOWNhv,DOWNhs,DOWNhi,v,s,shLIGHT i,",
    "QUADRUPLE DASH v,QUADRUPLE DASH u,i,TRIPLE DASH v,TRIPLE DASH u,UP,UPhv,UPhs,UPhLIGHT DOWN,",
    "UPhi,u;BOX DRAWINGS HEAVY uh:v,s,i;BOX DRAWINGS s HEAVYhi :DOWN LIGHT,UP LIGHT,u LIGHT;",
    "BOX DRAWINGS s LIGHThi :DOWN HEAVY,UP HEAVY,u HEAVY;BOX DRAWINGS LIGHT :ARC DOWNhs,",
    "ARC DOWNhi,ARC UPhs,ARC UPhi,DIAGONAL CROSS,DIAGONAL UPPER s TO LOWER i,",
    "DIAGONAL UPPER i TO LOWER s,l DASH v,l DASH u,DOWN,DOWNhv,DOWNhs,DOWNhi,v,s,shHEAVY i,",
    "QUADRUPLE DASH v,QUADRUPLE DASH u,i,TRIPLE DASH v,TRIPLE DASH u,UP,UPhHEAVY DOWN,UPhv,UPhs,",
    "UPhi,u;BOX DRAWINGS LIGHT uh:v,s,i;BOX DRAWINGS i HEAVYhs :DOWN LIGHT,UP LIGHT,u LIGHT;",
    "BOX DRAWINGS i LIGHThs :DOWN HEAVY,UP HEAVY,u HEAVY;BOX DRAWINGS UP lh:v SINGLE,s SINGLE,",
    "i SINGLE;BOX DRAWINGS UP HEAVYh:DOWN v LIGHT,v LIGHT,s DOWN LIGHT,s LIGHT,i DOWN LIGHT,",
    "i LIGHT;BOX DRAWINGS UP LIGHTh:DOWN v HEAVY,v HEAVY,s DOWN HEAVY,s HEAVY,i DOWN HEAVY,",
    "i HEAVY;BOX DRAWINGS UP SINGLEh:v l,s l,i l;BOX DRAWINGS u lh:v SINGLE,s SINGLE,i SINGLE;",
    "BOX DRAWINGS u HEAVYh:v LIGHT,s LIGHT,i LIGHT;BOX DRAWINGS u LIGHTh:v HEAVY,s HEAVY,i HEAVY;",
    "BOX DRAWINGS u SINGLEh:v l,s l,i l;CENTRELINE :LOW LINE,OVERLINE;",
    "#a:ALL BUT UPPER s QUADRANT ],v BAR,s HALF ],LOWER HALF ],i HALF ],m # TO THE i,",
    "SUPERIMPOSED X,| v qS TO THE i,UPPER HALF ],UPPER i QUADRANT ],u FILL;",
    "#D :ANTICLOCKWISE-ROTATED DIVISIONd,ASTERISK OPERATOR,BOLD X,BULLET,CROSSING LANES,DASH,",
    "DIVISIONd,DIVISION SLASH,% OPERATOR,EQUALS,GREATER-THAN,HEAVY WHITE i$e,v BARaNOTCH,",
    "LESS-THAN,MINUS,MULTIPLICATIONdaCIRCUMFLEX ACCENT,OPEN CENTRE & POINTED STAR,PARALLEL,",
    "PERPENDICULAR,PLUS,POSTALn,REVERSE SOLIDUS,RING OPERATOR,TIMES,x DOWN,u BAR,WHITE BULLET,",
    "WHITE STAR,X;#D.:&,FIVE,_,NINE,!,@,SIX,r,|,ZERO;#D HANGUL :CHIEUCH,CHIEUCH A,CIEUC,CIEUC A,",
    "HIEUH,HIEUH A,IEUNG,IEUNG A,IEUNG U,KHIEUKH,KHIEUKH A,KIYEOK,KIYEOK A,MIEUM,MIEUM A,NIEUN,",
    "NIEUN A,PHIEUPH,PHIEUPH A,PIEUP,PIEUP A,RIEUL,RIEUL A,SIOS,SIOS A,THIEUTH,THIEUTH A,TIKEUT,",
    "TIKEUT A;#D IDEOGRAPH :ALLIANCE,ATTENTION,CENTRE,CONGRATULATION,COPY,CORRECT,EARTH,&,",
    "ENTERPRISE,EXCELLENT,FEMALE,FINANCIAL,FIRE,FIVE,_,HAVE,HIGH,ITEM,KINDERGARTEN,KOTO,LABOR,s,",
    "LOW,MALE,MEDICINE,METAL,MOON,NAME,NIGHT,NINE,!,PRINT,QUESTION,RELIGION,RESOURCE,REST,i,",
    "SCHOOL,SECRET,@,SIX,SOCIETY,SPECIAL,STOCK,STUDY,SUITABLE,SUN,SUPERVISE,TEN,r,|,WATER,WOOD;",
    "#D KATAKANA :A,E,HA,HE,HI,HO,HU,I,KA,KE,KI,KO,KU,MA,ME,MI,MO,MU,NA,NE,NI,NO,NU,O,RA,RE,RI,RO,",
    "RU,SA,SE,SI,SO,SU,TA,TE,TI,TO,TU,U,WA,WE,WI,WO,YA,YO,YU;#D KOREAN CHARACTER :CHAMKO,JUEUI;",
    "#D LATIN+b:A,B,C,D,E,F,G,H,I,J,K,L,M,N,O,P,Q,R,S,T,U,V,W,X,Y,Z;#D LATIN mb:A,B,C,D,E,F,G,H,I,",
    "J,K,L,M,N,O,P,Q,R,S,T,U,V,W,X,Y,Z;#D NUMBER :&EEN,&Y ON ] =,ELEVEN,FIFTEEN,FIFTY,",
    "FIFTY ON ] =,FORTY,_TEEN,NINETEEN,@TEEN,@TY ON ] =,SIXTEEN,SIXTY ON ] =,TEN,TEN ON ] =,",
    "THIRTEEN,THIRTY,TWELVE,TWENTY;#D NUMBER FORTY :&,FIVE,_,NINE,ON ] =,!,@,SIX,r,|;",
    "#D NUMBER THIRTY :&,FIVE,_,NINE,ON ] =,!,@,SIX,r,|;#D NUMBER TWENTY :&,FIVE,_,NINE,ON ] =,!,",
    "@,SIX,r,|;CJK RADICAL :BAMBOO,BLUE,BOLT OF CLOTH,B!,BOX,BRUSH !,BRUSH |,CHOKE,CITY,CIVILIAN,",
    "CLIFF,CLOTHES,COW,DEATH,DIVINATION,DOG,EAT !,EAT r,EAT |,EWE,EYE,FIRE,FOOT,GHOST,GRASS !,",
    "GRASS r,GRASS |,HAND,HEAD,HEART !,HEART |,HORN,JADE,KNIFE !,KNIFE |,LONG !,LONG |,MEAT,MESH,",
    "MOON,MORTAR,MOTHER,MOUND !,MOUND |,NET _,NET !,NET r,NET |,OLD,PAW !,PAW |,PERSON,RAIN,RAM,",
    "RAP,REPEAT,SEAL,SECOND !,SECOND r,SECOND |,SHEEP,SILK,m !,m |,SNAKE,SNOUT !,SNOUT |,SPIRIT !,",
    "SPIRIT |,SUN,TABLE,THREAD,TIGER,TURTLE,WALK !,WALK |,WATER !,WATER |,WEST !,WEST |;",
    "CJK RADICAL C-SIMPLIFIED :BIRD,CART,DRAGON,EAT,EVEN,FISH,FLY,FROG,GATE,GOLD,HORSE,LEAF,LONG,",
    "SALT,SEE,SHELL,SILK,SPEECH,TANNED LEATHER,TOOTH,TURTLE,WIND;CJK RADICAL J-SIMPLIFIED :DRAGON,",
    "EVEN,TOOTH,TURTLE;CJK RADICAL LAME :_,!,r,|;CJK RADICAL SIMPLIFIED :HALF TREE TRUNK,HORN,",
    "WALK,WHEAT,YELLOW;CJK q :BXG,D,H,HG,HP,HPWG,HXWG,HZ,HZG,HZT,HZW,HZWG,HZZ,HZZP,HZZZ,HZZZG,N,P,",
    "PD,PG,PZ,Q,S,SG,SP,ST,SW,SWG,SWZ,SZ,SZWG,SZZ,T,TN,WG,XG;CLOCKWISE :CLOSED #e,",
    "CONTOUR INTEGRAL,GAPPED #e,INTEGRAL,OPEN #e,TOP SEMI#e,x-HEADED OPEN #e;",
    "CLOSED :INTERSECTIONaSERIFS,SUBSET,SUBSET OR EQUAL TO,SUPERSET,SUPERSET OR EQUAL TO;",
    "CLOSED UNIONa:SERIFS,SERIFShSMASH PRODUCT;COLON :EQUALS,SIGN;COMBINING :ANNUITYk,ASTERISKf,",
    "CLOCKWISEef,CLOCKWISE RING OVERLAY,CONJOINING MACRON,CONJOINING MACRONj,_ %Sf,s$e OVERLAY,",
    "s$ HARPOONaBARB DOWN$,LONG l SOLIDUS OVERLAY,LONG u LINE OVERLAY,REVERSE SOLIDUS OVERLAY,ief,",
    "iej,i HARPOONf,i$ HARPOONaBARB DOWN$,RING OVERLAY,SHORT u LINE OVERLAY,r %Sf,TILDE s HALFj,",
    "TILDE i HALFj,TRIPLE UNDER%,WIDE BRIDGEf;COMBINING ANTICLOCKWISE :ARROWf,RING OVERLAY;",
    "COMBINING CYRILLIC TITLO :s HALF,i HALF;COMBINING l :TILDE s HALF,TILDE i HALF,u q OVERLAY;",
    "COMBINING ENCLOSING :#,# BACKSLASH,DIAMOND,KEYCAP,SCREEN,=,UPWARD /x;COMBINING s :ARROWf,",
    "ARROWj,HARPOONf,ief;COMBINING LIGATURE :s HALF,s HALFj,i HALF,i HALFj;",
    "COMBINING MACRON :s HALF,s HALFj,i HALF,i HALFj;CONTAINS AS :MEMBER,NORMAL SUBGROUP,",
    "NORMAL SUBGROUP OR EQUAL TO;CONTAINSa:LONG v q,OVERBAR,u BAR AT END OF v q;CROSS :MARK,",
    "OF JERUSALEM,OF LORRAINE;CROSS PATTYa:s CROSSBAR,i CROSSBAR;CURLY :BRACKET EXTENSION,",
    "LOGICAL AND,LOGICAL OR,LOOP;DAGGERa:s GUARD,i GUARD;DASHED :LOW LINE,OVERLINE,x-HEADED i$e;",
    "DECIMAL :EXP!NTk,SEPARATOR KEYk;DEGREE :CELSIUS,FAHRENHEIT;DENTISTRYk LIGHT :DOWNhv,UPhv;",
    "DENTISTRYk LIGHT DOWNhva:#,x,WAVE;DENTISTRYk LIGHT UPhva:#,x,WAVE;",
    "DENTISTRYk LIGHT u :AND BOTTOM s,AND BOTTOM i,AND TOP s,AND TOP i,AND WAVE,WITH #,WITH x;",
    "DIAMONDa:BOTTOM HALF ],s HALF ],i HALF ],TOP HALF ];DIE :FACE-1~6;DIGIT :& FULL STOP,",
    "FIVE FULL STOP,_ FULL STOP,NINE FULL STOP,! FULL STOP,@ FULL STOP,SIX FULL STOP,r FULL STOP,",
    "| FULL STOP;DIGRAM FOR GREATER :YANG,YIN;DIGRAM FOR LESSER :YANG,YIN;",
    "DINGBAT #D SANS-SERIF.:&,FIVE,_,NINE,!,@,SIX,r,|;DINGBAT NEGATIVE #D :NUMBER TEN,",
    "SANS-SERIF NUMBER TEN;DINGBAT NEGATIVE #D.:&,FIVE,_,NINE,!,@,SIX,r,|;",
    "DINGBAT NEGATIVE #D SANS-SERIF.:&,FIVE,_,NINE,!,@,SIX,r,|;DIVISION :SLASH,TIMES;",
    "DOES NOT :DIVIDE,DIVIDEaREVERSED NEGATION SLASH,FORCE,PRECEDE,PRECEDE OR EQUAL,PROVE,SUCCEED,",
    "SUCCEED OR EQUAL;DOES NOT CONTAIN AS :MEMBER,NORMAL SUBGROUP,NORMAL SUBGROUP OR EQUAL;",
    "% :MINUS,OPERATOR,PLUS;%TED :#,CROSS,FENCE,OBELOS,i-/ANGLE,SOLIDUS,=,TRANSPOSITIONnER;",
    "l :#D NUMBER TEN,COLON EQUAL,CURLY LOOP,DAGGER,DOWN TACK,EXCLAMATIONn,",
    "HIGH-REVERSED-9 QUOTATIONn,HYPHEN,INTEGRAL,INTERSECTION,s ARC GREATER-THANz,LOGICAL AND,",
    "LOGICAL OR,LOW LINE,LOW-9 QUOTATIONn,LOW-REVERSED-9 QUOTATIONn,OBLIQUE HYPHEN,PLUS,PRECEDES,",
    "PRIME,PRIME QUOTATIONn,QUESTIONn,i ARC LESS-THANz,SOLIDUS OPERATOR,= INTERSECTION,= UNION,",
    "STACKED COMMA,q NOTd,SUBSET,SUCCEEDS,SUPERSET,SUSPENSIONn,UNION,UP TACK,WAVY OVERLINE;",
    "l #D.:&,FIVE,_,NINE,!,@,SIX,r,|;l NESTED :GREATER-THAN,LESS-THAN,LESS-THANaUNDERBAR;l u :BAR,",
    "BAR l s TURNSTILE,BAR l i TURNSTILE,BAR s TURNSTILE,LINE;l-LINE EQUAL TO OR :GREATER-THAN,",
    "LESS-THAN;l-LINE SLANTED :EQUAL TO OR GREATER-THAN,EQUAL TO OR LESS-THAN,",
    "GREATER-THAN OR EQUAL TO,LESS-THAN OR EQUAL TO;l-STRUCK :ITALIC+ D,N-ARY SUMMATION,m GAMMA,",
    "m PI;l-STRUCK+ :C,GAMMA,H,N,P,PI,Q,R,Z;l-STRUCK ITALIC m :D,E,I,J;lD :FEMALEd,MALEd,SYMBOL;",
    "DOWN :ARROWHEAD,FISH TAIL,i DIAGONAL ELLIPSIS,TACK,TACKa#j;DOWN-/xa:s HALF ],i HALF ];",
    "DOWN$ :ANCORA,ARROW,ARROW FROM BAR,ARROW s$ OF UP$e,ARROW TO BAR,]e,] #D WHITEe,DASHEDe,le,",
    "PAIREDeS,QUADRUPLEe,TRIPLEe,| HEADEDe,|-HEADEDeaxeHEADS,WHITEe,ZIGZAGe;DOWN$ea:CORNER s$,l q,",
    "v q,TIP s$,TIP i$;DOWN$ HARPOONaBARB :s BESIDE DOWN$ HARPOONaBARB i,",
    "s BESIDE UP$ HARPOONaBARB i,s FROM BAR,s TO BAR,s$,i FROM BAR,i TO BAR,i$;",
    "DOWN$ x-HEADED :ARROW,ARROW s$ OF UP$ x-HEADEDe,ARROW TO BAR,ARROWal v q,ARROWaLONG TIP s$,",
    "ARROWaLONG TIP i$,DASHEDe,PAIREDeS,ZIGZAGe;& :PETALLED OUTLINED ] FLORETTE,SPOKED ASTERISK,",
    "TEARDROP-SPOKED PROPELLER ASTERISK;& POINTED :] STAR,PINWHEEL STAR,RECTILINEAR ] STAR;",
    "ELEMENT OF OPENING :DOWN$,UP$;ELEMENT OFa:%f,LONG v q,OVERBAR,| v qS,UNDERBAR,",
    "u BAR AT END OF v q;EM :DASH,QUAD,SPACE;EMPTY SETa:sef,OVERBAR,ief,m #f;EN :DASH,QUAD,SPACE;",
    "EQUAL :AND PARALLEL TO,TO BY DEFINITION;EQUAL TO OR :GREATER-THAN,LESS-THAN,PRECEDES,",
    "SUCCEEDS;EQUALS :COLON,WITH ASTERISK;EQUALSdf :s$e,PLUSd,i$e,TILDE OPERATOR;",
    "EQUALSdhSLANTED :PARALLEL,PARALLELaTILDEf;EQUALSda:BUMPYf,%j,INFINITYj,| %Sfh| %Sj;",
    "EQUIVALENT :TO,WITH _ %Sf;ERASE TO THE :s,i;ERISc :!,|;ERROR-BARRED ] :#,DIAMOND,=;",
    "ERROR-BARRED WHITE :#,DIAMOND,=;FALLING DIAGONAL :CROSSING NORTH EASTe,",
    "CROSSING RISING DIAGONAL,IN WHITE # IN ] =;FIGURE :DASH,SPACE;FIRST :QUARTER MOON,",
    "STRONG ISOLATE;FIVE % :MARK,PUNCTUATION;_ :BALLOON-SPOKED ASTERISK,CLUB-SPOKED ASTERISK,",
    "CORNEReS CIRCLING ANTICLOCKWISE,%n,% PUNCTUATION,TEARDROP-SPOKED ASTERISK;",
    "FRACTION :NUMERATOR !,SLASH;FULL :BLOCK,OUTER JOIN;FULLWIDTH :AMPERSAND,APOSTROPHE,ASTERISK,",
    "BROKEN BAR,CENTd,CIRCUMFLEX ACCENT,COLON,COMMA,COMMERCIAL AT,DOLLARd,EQUALSd,EXCLAMATIONn,",
    "FULL STOP,GRAVE ACCENT,GREATER-THANd,HYPHEN-MINUS,LESS-THANd,LOW LINE,MACRON,NOTd,NUMBERd,",
    "PERCENTd,PLUSd,POUNDd,QUESTIONn,QUOTATIONn,REVERSE SOLIDUS,SEMICOLON,SOLIDUS,TILDE,u LINE,",
    "WONd,YENd;FULLWIDTH.:&,FIVE,_,NINE,!,@,SIX,r,|,ZERO;FULLWIDTH LATIN+b:A,B,C,D,E,F,G,H,I,J,K,",
    "L,M,N,O,P,Q,R,S,T,U,V,W,X,Y,Z;FULLWIDTH LATIN mb:A,B,C,D,E,F,G,H,I,J,K,L,M,N,O,P,Q,R,S,T,U,V,",
    "W,X,Y,Z;FULLWIDTH s :CURLYz,PARENTHESIS,=z,WHITE PARENTHESIS;FULLWIDTH i :CURLYz,PARENTHESIS,",
    "=z,WHITE PARENTHESIS;GEAR :WITH HANDLES,WITHOUT HUB;GEOMETRICALLY :EQUAL TO,EQUIVALENT TO;",
    "GREATER-THAN :AND NOT APPROXIMATE,AND SINGLE-LINE NOT EQUAL TO,BESIDE LESS-THAN,",
    "BUT NOT EQUAL TO,BUT NOT EQUIVALENT TO,CLOSED BY CURVE,CLOSED BY CURVEf SLANTED EQUAL,",
    "EQUAL TO OR LESS-THAN,OR APPROXIMATE,OR EQUAL TO,OR EQUIVALENT TO,OR LESS-THAN,",
    "OR SLANTED EQUAL TO,OVER EQUAL TO,OVERLAPPING LESS-THAN,WITH # INSIDE,WITH %,WITH QUESTIONnf;",
    "GREATER-THANf :l-LINE EQUALf LESS-THAN,LESS-THANf l-LINE EQUAL,i$e,SIMILARf LESS-THAN,",
    "SIMILAR OR EQUAL,SLANTED EQUALf LESS-THANf SLANTED EQUAL;",
    "GREATER-THAN OR SLANTED EQUAL TOa% :ABOVE,ABOVE s,INSIDE;HALFWIDTH :] =,DOWN$e,FORMS LIGHT u,",
    "HANGUL FILLER,IDEOGRAPHIC COMMA,IDEOGRAPHIC FULL STOP,KATAKANA-HIRAGANA PROLONGED SOUNDn,",
    "s CORNERz,s$e,i CORNERz,i$e,UP$e,WHITE #;HALFWIDTH HANGULb:A,AE,CHIEUCH,CIEUC,E,EO,EU,HIEUH,",
    "I,IEUNG,KHIEUKH,KIYEOK,KIYEOK-SIOS,MIEUM,NIEUN,NIEUN-CIEUC,NIEUN-HIEUH,O,OE,PHIEUPH,PIEUP,",
    "PIEUP-SIOS,RIEUL,RIEUL-HIEUH,RIEUL-KIYEOK,RIEUL-MIEUM,RIEUL-PHIEUPH,RIEUL-PIEUP,RIEUL-SIOS,",
    "RIEUL-THIEUTH,SIOS,SSANGCIEUC,SSANGKIYEOK,SSANGPIEUP,SSANGSIOS,SSANGTIKEUT,THIEUTH,TIKEUT,U,",
    "WA,WAE,WE,WEO,WI,YA,YAE,YE,YEO,YI,YO,YU;HALFWIDTH KATAKANA :*%,SEMI-VOICED SOUNDn,",
    "VOICED SOUNDn;HALFWIDTH KATAKANAb:A,E,HA,HE,HI,HO,HU,I,KA,KE,KI,KO,KU,MA,ME,MI,MO,MU,N,NA,NE,",
    "NI,NO,NU,O,RA,RE,RI,RO,RU,SA,SE,SI,SO,SU,TA,TE,TI,TO,TU,U,WA,WO,YA,YO,YU;",
    "HALFWIDTH KATAKANAbm :A,E,I,O,TU,U,YA,YO,YU;HAMMERh:PICK,SICKLE;HANGUL :l % T!n,SINGLE % T!n;",
    "HANGZHOU NUMERAL :&,FIVE,_,NINE,!,@,SIX,TEN,THIRTY,r,TWENTY,|;HEAVY :ASTERISK,BALLOT X,",
    "] HEART,CHECKn,CHEVRON SNOWFLAKE,#,#D SALTIRE,CONCAVE-POINTED ] i$e,DASHED x-HEADED i$e,",
    "DIVISIONd,l COMMA QUOTATIONn ORNAMENT,l TURNED COMMA QUOTATIONn ORNAMENT,",
    "& POINTED RECTILINEAR ] STAR,& TEARDROP-SPOKED PROPELLER ASTERISK,_ BALLOON-SPOKED ASTERISK,",
    "GREEK CROSS,HEART EXCLAMATIONn ORNAMENT,LARGE #,LOW l COMMA QUOTATIONn ORNAMENT,",
    "LOW SINGLE COMMA QUOTATIONn ORNAMENT,LOWER i-SHADOWED WHITE i$e,MINUSd,MULTIPLICATION X,",
    "NORTH EASTe,OPEN CENTRE CROSS,OUTLINED ] STAR,OVALaOVAL INSIDE,PLUSd,i$e,ROUND-TIPPED i$e,",
    "SINGLE COMMA QUOTATIONn ORNAMENT,SINGLE TURNED COMMA QUOTATIONn ORNAMENT,SOUTH EASTe,SPARKLE,",
    "TEARDROP-SHANKED i$e,x-HEADED i$e,UPPER i-SHADOWED WHITE i$e,u BAR,WEDGE-TAILED i$e,",
    "WHITE DOWN-/x,WIDE-HEADED i$e;HEAVY ] CURVED :DOWN$hi$e,UP$hi$e;",
    "HEAVY ]-FEATHERED :NORTH EASTe,i$e,SOUTH EASTe;HEAVY #a:# INSIDE,qh| %Sf;",
    "HEAVY EXCLAMATIONn :ORNAMENT,SYMBOL;HEAVY s-/ANGLE :BRACKET ORNAMENT,QUOTATIONn ORNAMENT;",
    "HEAVY i-/ANGLE :BRACKET ORNAMENT,QUOTATIONn ORNAMENT;HEAVY TEARDROP-SPOKED :ASTERISK,",
    "PINWHEEL ASTERISK;HEXAGRAM FOR :ABUNDANCE,AFTER COMPLETION,APPROACH,BEFORE COMPLETION,",
    "BITING THROUGH,BREAKTHROUGH,COMING TO MEET,CONFLICT,CONTEMPLATION,DARKENING OF THE LIGHT,",
    "DECREASE,DELIVERANCE,DEVELOPMENT,DIFFICULTY AT THE BEGINNING,DISPERSION,DURATION,ENTHUSIASM,",
    "FELLOWSHIP,FOLLOWING,GATHERING TOGETHER,GRACE,HOLDING TOGETHER,INCREASE,INFLUENCE,",
    "INNER TRUTH,INNOCENCE,LIMITATION,MODESTY,MOUTH CORNERS,OBSTRUCTION,OPPOSITION,OPPRESSION,",
    "PEACE,PROGRESS,PUSHING UPWARD,RETREAT,RETURN,REVOLUTION,m PREPONDERANCE,m TAMING,",
    "SPLITTING APART,STANDSTILL,TREADING,WAITING,WORK ON THE DECAYED,YOUTHFUL FOLLY;",
    "HEXAGRAM FOR GREAT :POSSESSION,POWER,PREPONDERANCE,TAMING;HEXAGRAM FOR THE :ABYSMAL WATER,",
    "ARMY,AROUSING THUNDER,CAULDRON,CLINGING FIRE,CREATIVE HEAVEN,FAMILY,GENTLE WIND,JOYOUS LAKE,",
    "KEEPING STILL MOUNTAIN,MARRYING MAIDEN,RECEPTIVE EARTH,WANDERER,WELL;v :BAR,] HEXAGON,",
    "] OCTAGON,ELLIPSIS,LINE EXTENSION,MALEaqd,TAB KEY;v SCAN :LINE-1,LINE-3,LINE-7,LINE-9;",
    "HOT :BEVERAGE,SPRINGS;HYPHEN :BULLET,WITH DIAERESIS;IDENTICAL :TO,TOhSLANTED PARALLEL,",
    "WITH %f;IDEOGRAPHIC :CLOSINGn,COMMA,DEPARTING T!n,ENTERING T!n,FULL STOP,HALF FILL SPACE,",
    "ITERATIONn,LEVEL T!n,NUMBER ZERO,RISING T!n,SPACE,TELEGRAPH LINE FEED SEPARATORk,",
    "VARIATION INDICATOR;IDEOGRAPHIC DESCRIPTION CHARACTER :ABOVE TOj,ABOVE TO MIDDLEhBELOW,",
    "FULL SURROUND,s TO MIDDLEhi,s TO i,OVERLAID;",
    "IDEOGRAPHIC DESCRIPTION CHARACTER SURROUND FROM :ABOVE,BELOW,s,LOWER s,UPPER s,UPPER i;",
    "IDEOGRAPHIC TELEGRAPHk FOR :APRIL,AUGUST,DECEMBER,FEBRUARY,JANUARY,JULY,JUNE,MARCH,MAY,",
    "NOVEMBER,OCTOBER,SEPTEMBER;IDEOGRAPHIC TELEGRAPHk FOR DAY :&,&EEN,ELEVEN,FIFTEEN,FIVE,_,",
    "_TEEN,NINE,NINETEEN,!,@,@TEEN,SIX,SIXTEEN,TEN,THIRTEEN,THIRTY,THIRTY-!,r,TWELVE,TWENTY,",
    "TWENTY-&,TWENTY-FIVE,TWENTY-_,TWENTY-NINE,TWENTY-!,TWENTY-@,TWENTY-SIX,TWENTY-r,TWENTY-|,|;",
    "IDEOGRAPHIC TELEGRAPHk FOR HOUR :&,&EEN,ELEVEN,FIFTEEN,FIVE,_,_TEEN,NINE,NINETEEN,!,@,@TEEN,",
    "SIX,SIXTEEN,TEN,THIRTEEN,r,TWELVE,TWENTY,TWENTY-_,TWENTY-!,TWENTY-r,TWENTY-|,|,ZERO;",
    "IMAGE :OF,OF OR APPROXIMATELY EQUAL TO;INHIBIT :>c SHAPING,SYMMETRIC SWAPPING;",
    "INTEGRAL :AROUND A POINT OPERATOR,AVERAGEaSLASH,EXTENSION;INTEGRALa:l q,INTERSECTION,s$ea[,",
    "OVERBAR,TIMESd,UNDERBAR,UNION;INTERLINEAR ANNOTATION :ANCHOR,SEPARATOR,TERMINATOR;",
    "INTERSECTION :ABOVE BARf UNION,ABOVE UNION,BESIDEhJOINEDaINTERSECTION,WITH %,",
    "WITH LOGICAL AND,WITH OVERBAR;INVERSE :BULLET,WHITE #;INVERTED :INTERROBANG,LAZY S,",
    "LOW KAVYKA,LOW KAVYKAaKAVYKAf,OHMd,PENTAGRAM,UNDERTIE;INVISIBLE :PLUS,SEPARATOR,TIMES;",
    "JAPANESE :BANKk,INDUSTRIAL STANDARDk;KANGXI RADICAL :AGAIN,AND,ARRIVE,ARROW,AXE,BADGER,",
    "BAMBOO,BEAN,BIG,BIRD,BITTER,],BLOOD,BLUE,BOAT,BODY,BOLT OF CLOTH,B!,BOW,BRANCH,BRISTLE,BRUSH,",
    "CART,CAULDRON,CAVE,CHILD,CITY,CLAN,CLAW,CLIFF,CLOTHES,COLOR,COMPARE,CORPSE,COVER,COW,DEATH,",
    "DEER,DIPPER,DISH,DISTINGUISH,DIVINATION,DO NOT,DOG,DOOR,%,%TED CLIFF,%TED TENT,l X,DOWN BOX,",
    "DRAGON,DRUM,DRY,EAR,EARTH,EAT,&,EMBROIDERY,ENCLOSURE,ENTER,EVEN,EVENING,EYE,FACE,FANG,FATHER,",
    "FEATHER,FIELD,FIGHT,FIRE,FISH,FLUTE,FLY,FOOT,FRAGRANT,FROG,FUR,GATE,GHOST,GO,GO SLOWLY,GOLD,",
    "GRAIN,GRASS,HAIR,HALBERD,HALF TREE TRUNK,HAND,HEAD,HEART,HEMP,HIDING ENCLOSURE,[,HORN,HORSE,",
    "ICE,INCH,INSECT,JADE,JAR,KNIFE,LACK,LAME,LEAF,LEATHER,LEEK,LEGS,LID,LIFE,LINE,LONG,",
    "LONG STRIDE,MAN,MEAT,MELON,MILLET,MINISTER,MOON,MORNING,MORTAR,MOUND,MOUNTAIN,MOUTH,NET,NOSE,",
    "NOT,OLD,!,!SELF,OPEN BOX,OPPOSE,PIG,PLOW,POWER,PRIVATE,PROFOUND,RAIN,RAP,RAT,RED,RICE,",
    "i OPEN BOX,RIVER,ROOF,RUN,SACRIFICIAL WINE,SALT,SAY,SCHOLAR,SCRIPT,SEAL,SECOND,SEE,SELF,",
    "SHEEP,SHELL,SHOOT,SHORT TAILED BIRD,SHORT THREAD,SICKNESS,SILK,SKIN,SLASH,SLAVE,SLICE,m,",
    "SNOUT,SOUND,SPEAR,SPEECH,SPIRIT,SPOON,SPROUT,=,STAND,STEAM,STEP,ST!,STOP,STOPPING,SUN,SWEET,",
    "TABLE,TALL,TANNED LEATHER,TEN,TIGER,TILE,TONGUE,TOOTH,TRACK,TREE,TRIPOD,TURBAN,TURTLE,|,",
    "| HANDS,USE,VALLEY,VILLAGE,WALK,WALK ENCLOSURE,WATER,WEAPON,WEST,WHEAT,WHITE,WIND,WINE,WOMAN,",
    "WORK,WRAP,WRONG,YELLOW;KATAKANAbm :HA,HE,HI,HO,HU,KU,MU,NU,RA,RE,RI,RO,RU,SI,SU,TO;LARGE :#,",
    "DOWN TACK,s x OPERATOR,TRIPLE u BAR OPERATOR,UP TACK;LARGER :THAN,THAN OR EQUAL TO;",
    "LATIN :CROSS,mbREVERSED C;LATIN SUBSCRIPT mb:A,E,H,K,L,M,N,O,P,S,SCHWA,T,X;s :ANGLEz,",
    "ANGLEza%,ARC LESS-THANz,] LENTICULARz,] TORTOISE SHELLz,CEILING,CLOSED ENTRY,CORNERz,",
    "%TED SUBSTITUTIONz,FISH TAIL,FIVE &HS BLOCK,FLOOR,HALF BLOCK,LOW PARAPHRASEz,MULTIMAP,",
    "NORMAL FACTOR SEMIDIRECT PRODUCT,! &H BLOCK,! QUARTER BLOCK,OUTER JOIN,RAISED OMISSIONz,",
    "S-SHAPED BAG DELIMITER,SEMIDIRECT PRODUCT,@ &HS BLOCK,SIDEWAYS Uz,SINGLE QUOTATIONn,",
    "SUBSTITUTIONz,TACK,r &HS BLOCK,r QUARTERS BLOCK,TORTOISE SHELLz,TRANSPOSITIONz,",
    "x BESIDE u BAR,WIGGLY FENCE;shi :l TURNSTILE,TACK;sea:#D PLUS,m #;",
    "s BARB DOWN i BARB :DOWN HARPOON,UP HARPOON;s BARB UP i BARB :DOWN HARPOON,UP HARPOON;",
    "s CURLYz :LOWER [,*PIECE,UPPER [;s l :ANGLEz,PARENTHESIS,QUOTATIONn,WIGGLY FENCE;s HALF ] :#,",
    "STAR;s PARENTHESIS :EXTENSION,LOWER [,UPPER [;s i :ARROW,ARROW THROUGH m #,]e,le,",
    "OPEN-HEADEDe,x-HEADEDe,WAVEe,WHITEe;s iea:l u q,q,u q;s i lea:q,u q;s =z :EXTENSION,",
    "LOWER CORNER,UPPER CORNER;s =za:l q,QUILL,q,TICK IN BOTTOM CORNER,TICK IN TOP CORNER,",
    "UNDERBAR;s u :BARaQUILL,BOX LINE;s WHITE :CORNERz,CURLYz,LENTICULARz,PARENTHESIS,=z,",
    "TORTOISE SHELLz;s-/:ANGLEz,CURVED ANGLEz;s-TO-i :EMBEDDING,ISOLATE,MARK,OVERRIDE;s$ :ARROW,",
    "ARROW-TAIL,]e,] #D WHITEe,DASHEDe,HARPOON OVER i$ HARPOON,OPEN-HEADEDe,PAIREDeS,QUADRUPLEe,",
    "SQUIGGLEe,TRIPLEe,TRIPLE DASHe,| HEADEDe,|-HEADEDe FROM BAR,|-HEADED TRIPLE DASHe,WAVEe,",
    "WHITEe;s$e :FROM BAR,FROM BAR TO ] DIAMOND,OVER i$e,THROUGH LESS-THAN,THROUGH SUBSET,",
    "THROUGH X,TO BAR,TO BAR OVER i$e TO BAR,TO ] DIAMOND;s$ef :ALMOST EQUAL TO,",
    "REVERSE ALMOST EQUAL TO,REVERSE TILDE OPERATOR,SHORT i$e,TILDE OPERATOR;s$ea:%TED STEM,l u q,",
    "[,LOOP,PLUSj,q,TAIL,TAILal u q,TAILau q,TIP DOWN$,TIP UP$,u q;s$ l :ARROW,ARROW FROM BAR,",
    "ARROWaq,ARROWau q,ARROW-TAIL,DASHe;s$ HARPOONaBARB :DOWNf i$ HARPOONaBARB DOWN,",
    "DOWNj LONG DASH,DOWN FROM BAR,DOWN TO BAR,DOWN$,UPf s$ HARPOONaBARB DOWN,UPf LONG DASH,",
    "UPf i$ HARPOONaBARB UP,UP FROM BAR,UP TO BAR,UP$;s$ x-HEADED :ARROW,ARROW OVER i$ x-HEADEDe,",
    "ARROW TO BAR,ARROWal v q,ARROWaLONG TIP DOWN$,ARROWaLONG TIP UP$,DASHEDe,PAIREDeS;",
    "s$ |-HEADEDea:l u q,TAIL,TAILal u q,TAILau q,xeHEADS,u q;LESS-THAN :AND NOT APPROXIMATE,",
    "AND SINGLE-LINE NOT EQUAL TO,BUT NOT EQUAL TO,BUT NOT EQUIVALENT TO,CLOSED BY CURVE,",
    "CLOSED BY CURVEf SLANTED EQUAL,EQUAL TO OR GREATER-THAN,OR APPROXIMATE,OR EQUAL TO,",
    "OR EQUIVALENT TO,OR GREATER-THAN,OR SLANTED EQUAL TO,OVER EQUAL TO,WITH # INSIDE,WITH %,",
    "WITH QUESTIONnf;LESS-THANf :l-LINE EQUALf GREATER-THAN,GREATER-THANf l-LINE EQUAL,s$e,",
    "SIMILARf GREATER-THAN,SIMILAR OR EQUAL,SLANTED EQUALf GREATER-THANf SLANTED EQUAL;",
    "LESS-THAN OR SLANTED EQUAL TOa% :ABOVE,ABOVE i,INSIDE;LIGHT :_ POINTED ] CUSP,",
    "s TORTOISE SHELLz ORNAMENT,i TORTOISE SHELLz ORNAMENT,SHADE,u BAR;",
    "LINE INTEGRATION :NOT INCLUDING THE POLE,WITH RECTANGULAR PATH AROUND POLE,",
    "WITH SEMICIRCULAR PATH AROUND POLE;LOGICAL :AND,OR,OR OVERLAPPING LOGICAL AND;",
    "LOGICAL ANDa:%f,l OVERBAR,l UNDERBAR,v DASH,*STEM,UNDERBAR;LOGICAL ORa:%f,l OVERBAR,",
    "l UNDERBAR,v DASH,*STEM;LONG :DASH FROM s MEMBER OF l u,DIVISION,s TACK,i TACK;",
    "LONG s i :ARROW,le;LONG s$ :ARROW,ARROW FROM BAR,le,le FROM BAR,SQUIGGLEe;LONG i$ :ARROW,",
    "ARROW FROM BAR,le,le FROM BAR,SQUIGGLEe;LOW :ASTERISK,l PRIME QUOTATIONn,KAVYKA,KAVYKAa%;",
    "LOWER :BLADE SCISSORS,FIVE &HS BLOCK,! &H BLOCK,! QUARTER BLOCK,@ &HS BLOCK,r &HS BLOCK,",
    "r QUARTERS BLOCK;LOWER HALF :BLOCK,#,INVERSE WHITE #;LOWER s :QUADRANT CIRCULAR ARC,",
    "SEMICIRCULAR ANTICLOCKWISEe,x;LOWER i :CORNERa%,DROP-SHADOWED WHITE =,PENCIL,",
    "QUADRANT CIRCULAR ARC,SEMICIRCULAR CLOCKWISEe,SHADOWED WHITE =,x;MALE :AND FEMALEd,SIGN;",
    "MALEaq :AND MALEhFEMALEd,SIGN;MATHEMATICAL :FALLING DIAGONAL,RISING DIAGONAL;",
    "MATHEMATICAL s :ANGLEz,l ANGLEz,FLATTENED PARENTHESIS,WHITE =z,WHITE TORTOISE SHELLz;",
    "MATHEMATICAL i :ANGLEz,l ANGLEz,FLATTENED PARENTHESIS,WHITE =z,WHITE TORTOISE SHELLz;",
    "MEASURED :ANGLE,ANGLE OPENING s,BY,i ANGLEa%;MEASURED ANGLEaOPEN ARM ENDING INe /:DOWNhs,",
    "DOWNhi,shDOWN,shUP,ihDOWN,ihUP,UPhs,UPhi;MEDIEVAL :COMMA,EXCLAMATIONn,QUESTIONn;MEDIUM :] #,",
    "s CURLYz ORNAMENT,s PARENTHESIS ORNAMENT,s-/ANGLEz ORNAMENT,MATHEMATICAL SPACE,",
    "i CURLYz ORNAMENT,i PARENTHESIS ORNAMENT,i-/ANGLEz ORNAMENT,SHADE,m WHITE #,u BAR,WHITE #;",
    "MEDIUM FLATTENED :s PARENTHESIS ORNAMENT,i PARENTHESIS ORNAMENT;METRICAL :BREVE,",
    "LONG OVER SHORT,LONG OVER | SHORTS,PENTASEME,SHORT OVER LONG,TETRASEME,TRISEME,",
    "| SHORTS JOINED,| SHORTS OVER LONG;MINUS :SIGN,SIGN IN x,TILDE;MINUSda:COMMAf,%j,FALLING %S,",
    "RISING %S;MONOGRAM FOR :YANG,YIN;MUCH :GREATER-THAN,LESS-THAN;MULTIPLICATIONd :IN l #,",
    "IN s HALF #,IN i HALF #,IN x,WITH %f,WITH UNDERBAR;MULTISET :MULTIPLICATION,UNION;",
    "MUSIC :FLATd,NATURALd,SHARPd;N-ARY :COPRODUCT,INTERSECTION,LOGICAL AND,LOGICAL OR,PRODUCT,",
    "= INTERSECTION OPERATOR,= UNION OPERATOR,SUMMATION,TIMES OPERATOR,UNION,WHITE u BAR;",
    "N-ARY #D :% OPERATOR,PLUS OPERATOR,TIMES OPERATOR;N-ARY UNION OPERATORa:%,PLUS;",
    "NEGATIVE :#D.ZERO,=D CROSSn;NEGATIVE #D NUMBER :&EEN,ELEVEN,FIFTEEN,_TEEN,NINETEEN,@TEEN,",
    "SIXTEEN,THIRTEEN,TWELVE,TWENTY;NEITHER :A SUBSET OF NOR EQUAL TO,A SUPERSET OF NOR EQUAL TO,",
    "APPROXIMATELY NOR ACTUALLY EQUAL TO;NEITHER GREATER-THAN NOR :EQUAL TO,EQUIVALENT TO,",
    "LESS-THAN;NEITHER LESS-THAN NOR :EQUAL TO,EQUIVALENT TO,GREATER-THAN;NEWLINE :s,i;",
    "NORMAL SUBGROUP :OF,OF OR EQUAL TO;NORTH EAST :AND SOUTH WESTe,ARROW,]e,le,WHITEe;",
    "NORTH EASTe :AND SOUTH EASTe,CROSSING NORTH WESTe,CROSSING SOUTH EASTe,WITH [;",
    "NORTH EAST x-HEADED :ARROW,ARROW TO BAR;NORTH WEST :AND SOUTH EASTe,ARROW,]e,le,WHITEe;",
    "NORTH WESTe :AND NORTH EASTe,CROSSING NORTH EASTe,TO CORNER,TO LONG BAR,WITH [;",
    "NORTH WEST x-HEADED :ARROW,ARROW TO BAR;NOT :A SUBSET OF,A SUPERSET OF,ALMOST EQUAL TO,",
    "AN ELEMENT OF,ASYMPTOTICALLY EQUAL TO,CHECKn,EQUAL TO,EQUIVALENT TO,GREATER-THAN,",
    "IDENTICAL TO,LESS-THAN,PARALLEL TO,TILDE,TRUE;NOT NORMAL SUBGROUP :OF,OF OR EQUAL TO;",
    "NOT = :IMAGE OF OR EQUAL TO,ORIGINAL OF OR EQUAL TO;NOTCHED :LOWER i-SHADOWED WHITE i$e,",
    "UPPER i-SHADOWED WHITE i$e;NUMBER :&EEN FULL STOP,ELEVEN FULL STOP,FIFTEEN FULL STOP,",
    "_TEEN FULL STOP,NINETEEN FULL STOP,@TEEN FULL STOP,SIXTEEN FULL STOP,TEN FULL STOP,",
    "THIRTEEN FULL STOP,TWELVE FULL STOP,TWENTY FULL STOP;OBLIQUE ANGLE OPENING :DOWN,UP;",
    "OCR :AMOUNT OF CHECK,BELT BUCKLE,BOW TIE,BRANCH BANK IDENTIFICATION,CHAIR,",
    "CUSTOMER ACCOUNT NUMBER,DASH,l BACKSLASH,FORK,[,INVERTED FORK;! % :LEADER,",
    "OVER | %S PUNCTUATION;OPEN :BOX,SUBSET,SUPERSET;OPEN CENTRE :ASTERISK,] STAR,CROSS,",
    "TEARDROP-SPOKED ASTERISK;OPEN-CIRCUIT-OUTPUT :H-TYPEk,L-TYPEk;OUTLINED :] STAR,GREEK CROSS,",
    "LATIN CROSS,WHITE STAR;OVERLAPPING :] =S,WHITEh] =S,WHITE =S;PARALLEL :TO,WITH v q,",
    "WITH TILDE OPERATOR;PARENTHESIZED.:&,FIVE,_,NINE,!,@,SIX,r,|;PARENTHESIZED HANGUL :CHIEUCH,",
    "CHIEUCH A,CIEUC,CIEUC A,CIEUC U,HIEUH,HIEUH A,IEUNG,IEUNG A,KHIEUKH,KHIEUKH A,KIYEOK,",
    "KIYEOK A,MIEUM,MIEUM A,NIEUN,NIEUN A,PHIEUPH,PHIEUPH A,PIEUP,PIEUP A,RIEUL,RIEUL A,SIOS,",
    "SIOS A,THIEUTH,THIEUTH A,TIKEUT,TIKEUT A;PARENTHESIZED IDEOGRAPH :ALLIANCE,CALL,",
    "CONGRATULATION,EARTH,&,ENTERPRISE,FESTIVAL,FINANCIAL,FIRE,FIVE,_,HAVE,LABOR,METAL,MOON,NAME,",
    "NINE,!,REACH,REPRESENT,RESOURCE,REST,SELF,@,SIX,SOCIETY,SPECIAL,STOCK,STUDY,SUN,SUPERVISE,",
    "TEN,r,|,WATER,WOOD;PARENTHESIZED KOREAN CHARACTER :O HU,OJEON;PARENTHESIZED LATIN mb:A,B,C,D,",
    "E,F,G,H,I,J,K,L,M,N,O,P,Q,R,S,T,U,V,W,X,Y,Z;PARENTHESIZED NUMBER :&EEN,ELEVEN,FIFTEEN,_TEEN,",
    "NINETEEN,@TEEN,SIXTEEN,TEN,THIRTEEN,TWELVE,TWENTY;PER :MILLEd,SIGN,TENtd;PLANCK :CONSTANT,",
    "CONSTANT OVER | PI;PLUSd :ABOVE EQUALSd,IN s HALF #,IN i HALF #,IN x;PLUSda:] x,",
    "CIRCUMFLEX ACCENTf,%j,m #f,SUBSCRIPT |,TILDEf,TILDEj;PLUTOc :FIVE,_,r,|;",
    "POP DIRECTIONAL :FORMATTING,ISOLATE;POSTAL :MARK,MARK FACE;POWER :ONk,ON-OFFk,SLEEPk,SYMBOL;",
    "PRECEDES :BUT NOT EQUIVALENT TO,OR EQUAL TO,OR EQUIVALENT TO,UNDER RELATION;",
    "PRECEDESf :ALMOST EQUAL TO,EQUALSd,NOT ALMOST EQUAL TO,NOT EQUAL TO,SINGLE-LINE EQUALSd,",
    "SINGLE-LINE NOT EQUAL TO;PRESENTATIONc FOR u :COLON,COMMA,EM DASH,EN DASH,EXCLAMATIONn,",
    "v ELLIPSIS,IDEOGRAPHIC COMMA,IDEOGRAPHIC FULL STOP,LOW LINE,QUESTIONn,SEMICOLON,| % LEADER,",
    "WAVY LOW LINE;PRESENTATIONc FOR u s :ANGLEz,] LENTICULARz,CORNERz,CURLYz,l ANGLEz,",
    "PARENTHESIS,=z,TORTOISE SHELLz,WHITE CORNERz,WHITE LENTICULARz;PRESENTATIONc FOR u i :ANGLEz,",
    "] LENTICULARz,CORNERz,CURLYz,l ANGLEz,PARENTHESIS,=z,TORTOISE SHELLz,WHITE CORNERz,",
    "WHITE LENTICULAR BRAKCET;QUADRANT LOWER :s,i;QUADRANT UPPER :s,shLOWER shLOWER i,shLOWER i,i,",
    "ihLOWER s,ihLOWER shLOWER i;QUADRANT UPPER shUPPER ihLOWER :s,i;QUADRUPLE :INTEGRAL OPERATOR,",
    "PRIME;RAISED :COMMA,%,%TED INTERPOLATIONnER,FIST,HAND,INTERPOLATIONnER,=;",
    "RECYCLINGk FOR :GENERIC MATERIALS,TYPE-1 PLASTICS,TYPE-2 PLASTICS,TYPE-3 PLASTICS,",
    "TYPE-4 PLASTICS,TYPE-5 PLASTICS,TYPE-6 PLASTICS,TYPE-7 PLASTICS;RESTRICTED s :ENTRY-1,",
    "ENTRY-2;RETURN :s,i,SYMBOL;REVERSE SOLIDUS :OPERATOR,PRECEDING SUBSET,WITH v q;",
    "REVERSE TILDE OPERATORf :s$e,i$e;REVERSED :ANGLE,ANGLEaUNDERBAR,COMMA,EMPTY SET,",
    "FORKED PARAGRAPHOS,NOTd,PILCROWd,PRIME,QUESTIONn,i ANGLE,ROTATED FLORAL HEART BULLET,",
    "SANS-SERIF+ L,SEMICOLON,TILDE,TILDE EQUALS,TRIPLE PRIME;REVERSED l :PRIME,PRIME QUOTATIONn,",
    "q NOTd;RIBBONe :DOWN s,DOWN i,s DOWN,s UP,i DOWN,i UP,UP s,UP i;i :ANGLE,ARC GREATER-THANz,",
    "] LENTICULARz,] TORTOISE SHELLz,CEILING,CORNERz,%TED SUBSTITUTIONz,FISH TAIL,FLOOR,",
    "HALF BLOCK,LOW PARAPHRASEz,NORMAL FACTOR SEMIDIRECT PRODUCT,! &H BLOCK,OUTER JOIN,",
    "RAISED OMISSIONz,S-SHAPED BAG DELIMITER,SEMIDIRECT PRODUCT,SIDEWAYS Uz,SINGLE QUOTATIONn,",
    "SUBSTITUTIONz,TACK,TORTOISE SHELLz,TRANSPOSITIONz,x,xf s x,WIGGLY FENCE;i ANGLE :BRACKET,",
    "BRACKETa%,%TED SUBSTITUTIONnER,SUBSTITUTIONnER,VARIANTa=,WITH ARC,WITH DOWN$ ZIGZAGe;",
    "iea:#D PLUS,m #;i CURLYz :LOWER [,*PIECE,UPPER [;i l :ANGLEz,ARROWaROUNDED HEAD,PARENTHESIS,",
    "QUOTATIONn,WIGGLY FENCE;i HALF ] :#,STAR;i PARENTHESIS :EXTENSION,LOWER [,UPPER [;",
    "i =z :EXTENSION,LOWER CORNER,UPPER CORNER;i =za:l q,QUILL,q,TICK IN BOTTOM CORNER,",
    "TICK IN TOP CORNER,UNDERBAR;i u :BARaQUILL,BOX LINE;i WHITE :CORNERz,CURLYz,LENTICULARz,",
    "PARENTHESIS,=z,TORTOISE SHELLz;i-/:ANGLEz,CURVED ANGLEz;i-TO-s :EMBEDDING,ISOLATE,MARK,",
    "OVERRIDE;i$ :ARROW,ARROW-TAIL,]e,] #D WHITEe,DASHEDe,HARPOON OVER s$ HARPOON,OPEN-HEADEDe,",
    "PAIREDeS,QUADRUPLEe,SQUIGGLEe,TRIPLEe,TRIPLE DASHe,| HEADEDe,|-HEADEDe FROM BAR,",
    "|-HEADED TRIPLE DASHe,WAVEe,WHITEe,WHITEe FROM WALL;i$e :FROM BAR,FROM BAR TO ] DIAMOND,",
    "OVER s$e,THROUGH GREATER-THAN,THROUGH SUPERSET,THROUGH X,TO BAR,TO ] DIAMOND;",
    "i$ef :ALMOST EQUAL TO,REVERSE ALMOST EQUAL TO,REVERSE TILDE OPERATOR,SHORT s$e,",
    "TILDE OPERATOR;i$ea:CORNER DOWN$,%TED STEM,l u q,[,LOOP,PLUSj,q,TAIL,TAILal u q,TAILau q,",
    "TIP DOWN$,TIP UP$,u q;i$ l :ARROW,ARROW FROM BAR,ARROWaq,ARROWau q,ARROW-TAIL,DASHe;",
    "i$ HARPOONaBARB :DOWNf s$ HARPOONaBARB DOWN,DOWNj LONG DASH,DOWN FROM BAR,DOWN TO BAR,DOWN$,",
    "UPf s$ HARPOONaBARB UP,UPf LONG DASH,UPf i$ HARPOONaBARB DOWN,UP FROM BAR,UP TO BAR,UP$;",
    "i$ x-HEADED :ARROW,ARROW OVER s$ x-HEADEDe,ARROW TO BAR,ARROWal v q,ARROWaLONG TIP DOWN$,",
    "ARROWaLONG TIP UP$,DASHEDe,PAIREDeS;i$ |-HEADEDea:l u q,TAIL,TAILal u q,TAILau q,xeHEADS,u q;",
    "RING :EQUAL TO,IN EQUAL TO,OPERATOR,POINT;RISING DIAGONAL CROSSING :FALLING DIAGONAL,",
    "SOUTH EASTe;ROMAN NUMERAL :&,ELEVEN,FIFTY,FIFTY EARLYc,FIFTYt,FIVE,FIVEw,FIVEt,_,NINE,!,!w,",
    "!wt,!t,!t C D,REVERSED !w,@,SIX,SIX LATEc,TEN,TENt,r,TWELVE,|;ROTATED :CAPITAL Q,",
    "FLORAL HEART BULLET,HEAVY ] HEART BULLET,LIGHT _ POINTED ] CUSP,WHITE _ POINTED CUSP;",
    "RUSSIAN ASTROLOGICALk :BINOVILE,NOVILE,QUINTILE,SENTAGON,TREDECILE,VIGINTILE;SCRIPT+ :B,E,F,",
    "H,I,L,M,P,R;SCRIPT m :E,G,L,O;SHADOWED WHITE :#,LATIN CROSS,STAR;SHORT :BACKSLANTED SOUTHe,",
    "BENTe /DOWN$ THEN NORTH EAST,DOWN TACK,DOWN TACKaOVERBAR,s TACK,i$ef s$e,SLANTED NORTHe,",
    "UP TACK,UP TACKf SHORT DOWN TACK,UP TACKaUNDERBAR;SIMILAR :ABOVE GREATER-THANf EQUALSd,",
    "ABOVE LESS-THANf EQUALSd,MINUS SIMILAR,OR GREATER-THAN,OR LESS-THAN;",
    "SINGLE :HIGH-REVERSED-9 QUOTATIONn,s-/ANGLE QUOTATIONn,LOW-9 QUOTATIONn,i-/ANGLE QUOTATIONn;",
    "SIX :PETALLED ]hWHITE FLORETTE,POINTED ] STAR;SLANTED EQUAL TO OR :GREATER-THAN,",
    "GREATER-THANa% INSIDE,LESS-THAN,LESS-THANa% INSIDE;SLANTED NORTHea:[ED HEAD,v TAIL;",
    "SLOPING LARGE :AND,OR;m :AMPERSAND,ASTERISK,COLON,COMMA,COMMERCIAL AT,DOLLARd,ELEMENT OF,",
    "EM DASH,EQUALSd,EXCLAMATIONn,FULL STOP,GREATER-THANd,HYPHEN-MINUS,IDEOGRAPHIC COMMA,",
    "LESS-THANd,NUMBERd,PERCENTd,PLUSd,QUESTIONn,REVERSE SOLIDUS,SEMICOLON,VEEaUNDERBAR;",
    "m CONTAINS :AS MEMBER,WITH OVERBAR,WITH u BAR AT END OF v q;m ELEMENT OFa:OVERBAR,",
    "u BAR AT END OF v q;m s :CURLYz,PARENTHESIS,TORTOISE SHELLz;m i :CURLYz,PARENTHESIS,",
    "TORTOISE SHELLz;m ROMAN NUMERAL :&,ELEVEN,FIFTY,FIVE,FIVEw,_,NINE,!,!w,!t,@,SIX,TEN,r,TWELVE,",
    "|;mER :THAN,THAN OR EQUAL TO;SOUTH EAST :ARROW,]e,le,WHITEe;SOUTH EASTe :AND SOUTH WESTe,",
    "CROSSING NORTH EASTe,TO CORNER,WITH [;SOUTH EAST x-HEADED :ARROW,ARROW TO BAR;",
    "SOUTH WEST :ARROW,ARROWhNORTH WESTe,ARROWa[,]e,le,WHITEe;SOUTH WEST x-HEADED :ARROW,",
    "ARROW TO BAR;SPHERICAL ANGLE OPENING :s,UP;= :A OVER M,AARU,AM,ANPEA,APAATO,ARUHUA,AU,",
    "BAARERU,BAR,BEETA,BIRU,BORUTO,BQ,BUSSYERU,C OVER KG,CAL,CAP,CC,CD,CM,CM CUBED,CM =D,CO,",
    "CORPORATION,CUP,DA,DAASU,DB,DESI,DL,DM,DM CUBED,DM =D,DORU,EEKAA,ERG,ESUKUUDO,EV,FM,FOOT,",
    "_ CORNERS,GAL,GANMA,GARON,GB,GHZ,GIGA,GINII,GIRUDAA,GPA,GURAMU,GURAMUTON,GY,HA,HAITU,",
    "HEKUTAARU,HERUTU,HG,HON,HOON,HOORU,HP,HPA,HUARADDO,HUIITO,HURAN,HZ,IMAGE OF,IN,ININGU,INTI,",
    "IU,K OHM,KA,KAIRI,KARATTO,KARORII,KB,KCAL,KEESU,KG,KHZ,KIRO,KIROGURAMU,KIROMEETORU,KIROWATTO,",
    "KK,KL,KM,KM+,KM CUBED,KM =D,KOOPO,KORUNA,KPA,KT,KURO!,KURUZEIRO,KV,KW,KYURII,",
    "s OPEN BOX OPERATOR,LM,LN,LOG,LOZENGE,LX,M CUBED,M OHM,M OVER S,M OVER S =D,M =D,MA,MAHHA,",
    "MAIKURO,MAIRU,MANSYON,MARUKU,MB,MB m,MEETORU,MEGA,MEGATON,MG,MHZ,MIKURON,MIL,MIRI,MIRIBAARU,",
    "ML,MM,MM CUBED,MM =D,MOL,MPA,MS,MV,MV MEGA,MW,MW MEGA,NA,NANO,NF,NM,NOTTO,NS,NV,NW,ONSU,OOMU,",
    "OV,PA,PA AMPS,PAASENTO,PAATU,PC,PEEZI,PENIHI,PENSU,PESO,PF,PH,PIASUTORU,PIKO,PIKURU,PM,",
    "POINTO,PONDO,POSITION INDICATOR,PPM,PR,PS,PV,PW,RAD,RAD OVER S,RAD OVER S =D,REMU,RENTOGEN,",
    "i OPEN BOX OPERATOR,RIRA,RITTORU,ROOT,RUPII,RUUBURU,SAIKURU,SANTIIMU,SENTI,SENTO,SIRINGU,SR,",
    "SV,THZ,TON,UON,V OVER M,WATTO,WB,YAADO,YAARU,YUAN;= ERA NAME :HEISEI,MEIZI,REIWA,SYOUWA,",
    "TAISYOU;= IMAGE OF OR :EQUAL TO,NOT EQUAL TO;= MU :A,F,G,L,M,S,V,W;= ORIGINAL :OF,",
    "OF OR EQUAL TO,OF OR NOT EQUAL TO;=a:BOTTOM HALF ],CONTOURED OUTLINE,",
    "DIAGONAL CROSSHATCH FILL,v FILL,s HALF ],LOWER s DIAGONAL HALF ],LOWER i DIAGONAL HALF ],",
    "ORTHOGONAL CROSSHATCH FILL,i HALF ],TOP HALF ],u FILL;=aUPPER :s DIAGONAL HALF ],",
    "s TO LOWER i FILL,i DIAGONAL HALF ],i TO LOWER s FILL;=D :ASTERISK,% OPERATOR,",
    "FALLING DIAGONAL SLASH,_ % PUNCTUATION,KEY,LOGICAL AND,LOGICAL OR,MINUS,PLUS,",
    "RISING DIAGONAL SLASH,SALTIRE,m #,=,TIMES;STAFF OF :AESCULAPIUS,HERMES;STAR :AND CRESCENT,",
    "EQUALS,OF DAVID,OPERATOR,WITH s HALF ],WITH i HALF ];SUBSCRIPT :&,EQUALSd,FIVE,_,",
    "s PARENTHESIS,MINUS,NINE,!,PLUSd,i PARENTHESIS,@,SIX,r,|,ZERO;SUBSET :OF,OFaNOT EQUAL TO;",
    "SUBSETf :i$e,SUBSET,SUPERSET;SUBSET OFf :ALMOST EQUAL TO,EQUALSd,NOT EQUAL TO,TILDE OPERATOR;",
    "SUBSET OF OR EQUAL :TO,TOa%f;SUBSETa:%,MULTIPLICATIONdj,PLUSdj;",
    "SUCCEEDS :BUT NOT EQUIVALENT TO,OR EQUAL TO,OR EQUIVALENT TO,UNDER RELATION;",
    "SUCCEEDSf :ALMOST EQUAL TO,EQUALSd,NOT ALMOST EQUAL TO,NOT EQUAL TO,SINGLE-LINE EQUALSd,",
    "SINGLE-LINE NOT EQUAL TO;SUMMATION :BOTTOM,TOP,WITH INTEGRAL;SUPERSCRIPT :&,EQUALSd,FIVE,_,",
    "s PARENTHESIS,MINUS,NINE,PLUSd,i PARENTHESIS,@,SIX,ZERO;SUPERSCRIPT LATIN mb:I,N;",
    "SUPERSET :BESIDEhJOINED BY DASHaSUBSET,BESIDE SUBSET,OF,OFaNOT EQUAL TO,PRECEDING SOLIDUS,",
    "WITH %,WITH MULTIPLICATIONdj,WITH PLUSdj;SUPERSETf :s$e,SUBSET,SUPERSET;",
    "SUPERSET OFf :ALMOST EQUAL TO,EQUALSd,NOT EQUAL TO,TILDE OPERATOR;SUPERSET OF OR EQUAL :TO,",
    "TOa%f;SYMBOL FOR :ACKNOWLEDGE,BACKSPACE,BELL,CANCEL,CARRIAGE RETURN,DATA LINK ESCAPE,DELETE,",
    "DELETEc |,ENQUIRY,ESCAPE,FILE SEPARATOR,FORM FEED,GROUP SEPARATOR,v TABULATION,LINE FEED,",
    "NEGATIVE ACKNOWLEDGE,NEWLINE,NULL,RECORD SEPARATOR,SAMARITAN SOURCE,SHIFT IN,SHIFT OUT,SPACE,",
    "START OF HEADING,START OF TEXT,SUBSTITUTE,SUBSTITUTEc |,SYNCHRONOUS IDLE,TYPE A ELECTRONICS,",
    "UNIT SEPARATOR,u TABULATION;SYMBOL FOR DEVICE CONTROL :_,!,r,|;SYMBOL FOR END OF :MEDIUM,",
    "TEXT,TRANSMISSION,TRANSMISSION BLOCK;TELEPH! :LOCATIONd,RECORDER,SIGN;THERE :DOES NOT EXIST,",
    "EXISTS;r :CONSECUTIVE EQUALSdS,DIMENSIONAL ANGLE,% PUNCTUATION,s$eS,i$eS;",
    "r LINES CONVERGING :s,i;r-D :BOTTOM-LIGHTED i$eHEAD,s-LIGHTED DOWN$ EQUILATERALeHEAD,",
    "i-LIGHTED UP$ EQUILATERALeHEAD;r-D TOP-LIGHTED :s$ EQUILATERALeHEAD,i$eHEAD,",
    "i$ EQUILATERALeHEAD;TILDE OPERATOR :ABOVE s$e,ABOVE i$e,WITH %f,WITH RISING %S;TILDEa:%f,%j,",
    "RINGf;TIMESa:s HALF ],i HALF ];TIRONIANd :CAPITAL ET,ET;TOP :ARC CLOCKWISEeaMINUS,CURLYz,",
    "PARENTHESIS,=z,TORTOISE SHELLz;TOP ARC ANTICLOCKWISE :ARROW,ARROWaPLUS;TOP HALF :] #,",
    "INTEGRAL,s PARENTHESIS,i PARENTHESIS,SECTIONd;TOP s :CORNER,CROP,HALFz;TOP i :CORNER,CROP,",
    "HALFz;xa:%f,SERIFS AT BOTTOM,UNDERBAR;TRIGRAM FOR :EARTH,FIRE,HEAVEN,LAKE,MOUNTAIN,THUNDER,",
    "WATER,WIND;TRIPLE :COLON OPERATOR,DAGGER,INTEGRAL,NESTED GREATER-THAN,NESTED LESS-THAN,PLUS,",
    "PRIME,SOLIDUS BINARY RELATION,TILDE;TRIPLE v BARa:l u q,TRIPLE u q;",
    "TRIPLE u BAR :BINARY RELATION,DELIMITER,i TURNSTILE,WITH v q;TURNED :AMPERSAND,ANGLE,",
    "] PENTAGON,] SHOGI PIECE,CAPITAL F,COMMA,DAGGER,DIGIT r,DIGIT |,GREEK mbIOTA,NOTd,SEMICOLON,",
    "m F,WHITE SHOGI PIECE;TURNED SANS-SERIF+ :G,L,Y;| :ASTERISKS ALIGNED uLY,",
    "CONSECUTIVE EQUALSdS,% LEADER,% PUNCTUATION,%S OVER ! % PUNCTUATION,JOINED =S;",
    "| INTERSECTING LOGICAL :AND,OR;| LOGICAL :AND OPERATOR,OR OPERATOR;UMBRELLA :ON GROUND,",
    "WITH RAIN DROPS;UNIONf :BARf INTERSECTION,INTERSECTION;UNIONa:LOGICAL OR,MINUSd,OVERBAR;",
    "UP :ARROW THROUGH #,ARROWHEAD,FISH TAIL,i DIAGONAL ELLIPSIS,TACK,TACKa#f;",
    "UPeHEAD :BETWEEN | v BARS,IN A RECTANGLE BOX;UP BARB s DOWN BARB :s HARPOON,i HARPOON;",
    "UP BARB i DOWN BARB :s HARPOON,i HARPOON;UP DOWN :ARROW,ARROWaBASE,]e,le,x-HEADEDe,WHITEe;",
    "UP-/xa:s HALF ],i HALF ];UPPER :BLADE SCISSORS,! &H BLOCK;UPPER HALF :BLOCK,#,",
    "INVERSE WHITE #;UPPER s :CORNERa%,OR LOWER i CURLYz SECTION,QUADRANT CIRCULAR ARC,x;",
    "UPPER i :DROP-SHADOWED WHITE =,OR LOWER s CURLYz SECTION,PENCIL,QUADRANT CIRCULAR ARC,",
    "SHADOWED WHITE =,x;UP$ :ANCORA,ARROW,]e,] #D WHITEe,DASHEDe,le,PAIREDeS,QUADRUPLEe,TRIPLEe,",
    "| HEADEDe,WHITEe;UP$e :FROM BAR,s$ OF DOWN$e,TO BAR,WITH l q,WITH v q,WITH TIP s$,",
    "WITH TIP i$;UP$ HARPOONaBARB :s BESIDE DOWN$ HARPOONaBARB i,s BESIDE UP$ HARPOONaBARB i,",
    "s FROM BAR,s TO BAR,s$,i FROM BAR,i TO BAR,i$;UP$ x-HEADED :ARROW,",
    "ARROW s$ OF DOWN$ x-HEADEDe,ARROW TO BAR,ARROWal v q,ARROWaLONG TIP s$,ARROWaLONG TIP i$,",
    "DASHEDe,PAIREDeS;UP$ |-HEADEDe :FROM m #,WITH xeHEADS;UP$ WHITEe :FROM BAR,FROM BARav BAR,",
    "ON PEDESTAL,ON PEDESTALav BAR,ON PEDESTALau BAR;UP$ WHITE l :ARROW,ARROW ON PEDESTAL;",
    "VARIATION :SELECTOR-10~16,SELECTOR-1~9;u :ELLIPSIS,_ %S,IDEOGRAPHIC ITERATIONn,",
    "LINE EXTENSION,MALEaqd,SIX %S,TAB KEY,TILDE,ZIGZAG LINE;u BAR :BESIDE i x,l s TURNSTILE,",
    "TRIPLE i TURNSTILE,WITH v q;u KANA REPEAT :MARK,MARK LOWER HALF,MARK UPPER HALF,",
    "WITH VOICED SOUNDn,WITH VOICED SOUNDn UPPER HALF;u LINEa:#f,#j,*%;VERY MUCH :GREATER-THAN,",
    "LESS-THAN;VULGAR FRACTION :FIVE &HS,FIVE SIXTHS,_ FIFTHS,@ &HS,r &HS,r FIFTHS,| FIFTHS,",
    "| THIRDS,ZERO THIRDS;VULGAR FRACTION ! :&H,FIFTH,NINTH,@TH,SIXTH,TENTH,THIRD;",
    "WAVEe /DIRECTLY :s,i;WAVY :DASH,LINE,LOW LINE,OVERLINE;WHITE :BULLET,#,CLUB SUIT,DIAMOND,",
    "DOWN /INDEX,EXCLAMATIONn ORNAMENT,FLAG,FLAGav *] STRIPE,FLORETTE,FROWNING FACE,HEART SUIT,",
    "HEAVY CHECKn,HEXAGON,v ELLIPSE,HOURGLASS,LARGE =,s LANE MERGE,s /INDEX,MOON SELENA,NIB,",
    "PARALLELOGRAM,PENTAGON,QUESTIONn ORNAMENT,RECTANGLE,i /INDEX,SCISSORS,SESAME %,SHOGI PIECE,",
    "SMILING FACE,SPADE SUIT,=,= CONTAINING ] m =,STAR,SUNaRAYS,TELEPH!,TRAPEZIUM,",
    "x CONTAINING m WHITE x,|-WAY s WAY TRAFFIC,UP /INDEX,VERY m =;WHITE CHESS :BISHOP,KING,",
    "KNIGHT,PAWN,QUEEN,ROOK;WHITE #a:% i,DOWNe,LOWER s QUADRANT,LOWER i QUADRANT,| %S,",
    "UPPER s QUADRANT,UPPER i QUADRANT;WHITE CONCAVE-SIDED :DIAMOND,DIAMONDas$ TICK,",
    "DIAMONDai$ TICK;WHITE DIAMOND :CONTAINING ] m DIAMOND,IN =,SUIT,WITH CENTRED %;",
    "WHITE DOWN-/:m x,x;WHITE DRAUGHTS :KING,MAN;WHITE _ POINTED :CUSP,STAR;WHITE s-/:POINTER,m x,",
    "x;WHITE MEDIUM :DIAMOND,LOZENGE,m =,=,STAR;WHITE i-/:PENTAGON,POINTER,m x,x;WHITE m :LOZENGE,",
    "=,STAR;WHITE =a:CENTRE u LINE,s$ TICK,LOWER s QUADRANT,LOWER i QUADRANT,i$ TICK,",
    "ROUNDED CORNERS,UPPER s QUADRANT,UPPER i QUADRANT,u BISECTING LINE;WHITE UP-/:m x,x,xa%;",
    "WHITE u :BAR,ELLIPSE,RECTANGLE;WORD :JOINER,SEPARATOR *%;Z NOTATION :BAG MEMBERSHIP,",
    "DOMAIN ANTIRESTRICTION,s BINDINGz,s IMAGEz,RANGE ANTIRESTRICTION,RELATIONAL COMPOSITION,",
    "i BINDINGz,i IMAGEz,SPOT,TYPE COLON;Z NOTATION SCHEMA :COMPOSITION,PIPING,PROJECTION;",
    "ZERO WIDTH :JOINER,NON-JOINER,SPACE"]

end BlockQuery.Text.CharacterName
