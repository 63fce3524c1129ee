/-!
# Names of pictures

The names of pictures, game pieces, musical signs and the letters of formulas.
The lines make up one text, of groups of names between semicolons: what the names of
a group have in common, a colon, and their endings. Small letters and other signs
stand for words.
-/

namespace BlockQuery.Text.CharacterName

/-- The names of pictures, game pieces, musical signs and the letters of formulas. -/
def pictures : List String :=
  [":ABACUS,ACCORDION,ADHESIVE BANDAGE,ADMISSION TICKETS,ADULT,AERIAL TRAMWAY,ALIEN MONSTER,",
    "AMBULANCE,AMERICAN FOOTBALL,AMPHORA,ANATOMICAL HEART,ANGERk,ANGRY FACE,ANGUISHED FACE,ANT,",
    "ANTENNAaBARS,ANTICLOCKWISE DOWN$hUP$ OPEN #eS,ARROWHEAD-SHAPED POINTER,ARTICULATED LORRY,",
    "ARTIST PALETTE,ASTONISHED FACE,ATHLETIC SHOE,AUBERGINE,AUTO RICKSHAW,",
    "AUTOMATED TELLER MACHINE,AUTOMOBILE,AVOCADO,AXE,BABY,BACON,BACTRIAN CAMEL,BADGER,",
    "BADMINTON RACQUEThSHUTTLECOCK,BAGEL,BAGGAGE CLAIM,BAGUETTE BREAD,BALL OF YARN,BALLET SHOES,",
    "BALLOON,BANANA,BANJO,BANK,BARBER POLE,BASKET,BASKETBALLhHOOP,BAT,BATH,BATHTUB,BATTERY,",
    "BEACHaUMBRELLA,BEANS,BEAR FACE,BEARDED PERSON,BEATING HEART,BEAVER,BED,BEER MUG,BEETLE,BELL,",
    "BELLHOP BELL,BENTO BOX,BEVERAGE BOX,BICYCLE,BICYCLIST,BIKINI,BILLED CAP,BILLIARDS,BIRD,",
    "BIRTHDAY CAKE,BISON,BITING LIP,BLOSSOM,BLOWFISH,BLUEBERRIES,BOAR,BOMB,B!,BOOK,BOOKMARK,",
    "BOOKMARK TABS,BOOKS,BOOMERANG,BOTTLEaPOPPING CORK,BOUQUET,BOUQUET OF FLOWERS,BOW ANDe,",
    "BOWLING,BOXING GLOVE,BOY,BOYSk,BRAIN,BREAD,BREAST-FEEDING,BRICK,BRIDEaVEIL,BRIDGE AT NIGHT,",
    "BRIEFCASE,BRIEFS,BROCCOLI,BROKEN HEART,BROOM,BROWN HEART,BUBBLE TEA,BUBBLES,BUCKET,BUG,",
    "BUILDING CONSTRUCTION,BULLHORN,BULLHORNaSOUND WAVES,BURRITO,BUS,BUS STOP,BUST IN SILHOUETTE,",
    "BUSTS IN SILHOUETTE,BUTTER,BUTTERFLY,CACTUS,CALENDAR,CALL ME HAND,CAMERA,CAMERAaFLASH,",
    "CAMPING,CANCEL TAG,CANCELLATION X,CANDLE,CANDY,CANNED FOOD,CANOE,CAROUSEL HORSE,",
    "CARP STREAMER,CARPENTRY SAW,CARROT,CAT,CAT FACE,CELTIC CROSS,CHAIR,CHEERING MEGAPH!,",
    "CHEESE WEDGE,CHEQUERED FLAG,CHERRIES,CHERRY BLOSSOM,CHESTNUT,CHICKEN,CHILD,CHILDREN CROSSING,",
    "CHIPMUNK,CHOCOLATE BAR,CHOPSTICKS,CHRISTMAS TREE,CINEMA,CIRCUS TENT,CITYSCAPE,",
    "CITYSCAPE AT DUSK,CLAMSHELL MOBILE PH!,CLAPPER BOARD,CLAPPING HANDSd,CLASSICAL BUILDING,",
    "CLIPBOARD,CLOWN FACE,COAT,COCKROACH,COCKTAIL GLASS,COCONUT,COIN,COLLISIONk,COMPASS,",
    "COMPRESSION,CONFETTI BALL,CONFOUNDED FACE,CONFUSED FACE,CONTROL KNOBS,CONVENIENCE STORE,",
    "COOKED RICE,COOKIE,COOKING,COPYsk,CORAL,COUCHhLAMP,COUPLEaHEART,COW,COW FACE,CRAB,",
    "CREDIT CARD,CRESCENT MOON,CRICKET,CRICKET BAThBALL,CROCODILE,CROISSANT,CROWN,CRUTCH,",
    "CRYSTAL BALL,CUCUMBER,CUPaSTRAW,CUPCAKE,CURLING ST!,CURRENCY EXCHANGE,CURRYhRICE,CUSTARD,",
    "CUSTOMS,CUT OF MEAT,CYCL!,DAGGER KNIFE,DANCER,DANGO,DARK SUNGLASSES,DASHk,DEAF PERSON,",
    "DECIDUOUS TREE,DECREASE FONT SIZEk,DEER,DELIVERY TRUCK,DEPARTMENT STORE,",
    "DERELICT HOUSE BUILDING,DESERT,DESERT ISLAND,DIESEL LOCOMOTIVE,DIRECT HIT,DISGUISED FACE,",
    "DIVING MASK,DIYA LAMP,DNA l HELIX,DO NOT LITTERk,DOCUMENT,DODO,DOG,DOG FACE,DOLPHIN,DOOR,",
    "%TED LINE FACE,DOUGHNUT,DOVE OF PEACE,DRAGON,DRAGON FACE,DRESS,DROMEDARY CAMEL,DROOLING FACE,",
    "DROP OF BLOOD,DROPLET,DRUMaDRUMSTICKS,DUCK,DUMPLING,DVD,E-MAILk,EAGLE,EAR,EGG,ELEPHANT,",
    "ELEVATOR,ELF,ENDas$ef,EVERGREEN TREE,EXPRESSIONLESS FACE,EXTRATERRESTRIAL ALIEN,EYE,",
    "EYEGLASSES,EYES,FACTORY,FAIRY,FALAFEL,FALLEN LEAF,FAMILY,FATHER CHRISTMAS,FEARFUL FACE,",
    "FEATHER,FENCER,FERRIS WHEEL,FIELD HOCKEY STICKhBALL,FIRE,FIRECRACKER,FIREWORK SPARKLER,",
    "FIREWORKS,FIRST PLACE MEDAL,FISH,FISH CAKEaSWIRL DESIGN,FISHING POLEhFISH,FISTED HANDd,",
    "FLAMINGO,FLAT SHOE,FLATBREAD,FLEXED BICEPS,FLOPPY DISK,FLOWER PLAYING CARDS,FLUSHED FACE,FLY,",
    "FOG,FOGGY,FOLDER,FONDUE,FOOT,FOOTPRINTS,FORTUNE COOKIE,FOX FACE,FREEZING FACE,FRENCH FRIES,",
    "FRIED SHRIMP,FROG FACE,FRONT-FACING BABY CHICK,FROWNING FACEaOPEN MOUTH,GAME DIE,GARLIC,",
    "GEM ST!,GENIE,GHOST,GIRAFFE FACE,GIRL,GIRLSk,GLASS OF MILK,GLOBEaMERIDIANS,GLOVES,",
    "GLOWING STAR,GOAL NET,GOAT,GOGGLES,GOLFER,GORILLA,GRADUATION CAP,GRAPES,GREEK MUSICAL LEIMMA,",
    "GRIMACING FACE,GROWING HEART,GUARDSMAN,GUIDE DOG,GUITAR,HAIRCUT,HAMBURGER,HAMMER,",
    "HAMMERhWRENCH,HAMSA,HAMSTER FACE,HANDBAG,HANDBALL,HANDSHAKE,HAPPY PERSON RAISING ! HAND,",
    "HARD DISK,HATCHING CHICK,HEADPH!,HEADST!,HEAR-NO-EVIL MONKEY,HEDGEHOG,HELICOPTER,HERB,",
    "HIBISCUS,HIGH BiNESSk,HIGH-HEELED SHOE,HIKING BOOT,HINDU TEMPLE,HIPPOPOTAMUS,HOCHO,HOLE,",
    "H!Y POT,H!YBEE,[,v TRAFFIC LIGHT,HORSE,HOSPITAL,HOTEL,HUGGING FACE,HUNDRED POINTSk,",
    "HUSHED FACE,HUT,I LOVE YOU HANDd,IDENTIFICATION CARD,IMP,INBOX TRAY,INCOMING ENVELOPE,",
    "INCREASE FONT SIZEk,INDEX /AT THE VIEWER,INFORMATION DESK PERSON,IZAKAYA LANTERN,",
    "JACK-O-LANTERN,JAR,JEANS,JIGSAW PUZZLE PIECE,JOYSTICK,JUGGLING,KAABA,KANGAROO,KEY,",
    "KEYBOARDhMOUSE,KEYCAP TEN,KIMONO,KISS,KISSn,KITE,KIWIFRUIT,KNEELING PERSON,KNOT,KOALA,",
    "LAB COAT,LABEL,LACROSSE STICKhBALL,LADDER,LADY BEETLE,LANGUAGE TAG,LEAF FLUTTERING IN WIND,",
    "LEAFY GREEN,LEDGER,s-FACING FIST,s-/MAGNIFYING GLASS,LEG,LEMON,LEOPARD,LEVEL SLIDER,",
    "LIGATURE OPEN ET ORNAMENT,LINKk,LINKED PAPERCLIPS,LION FACE,LIPS,LIPSTICK,LIZARD,LLAMA,",
    "LOBSTER,LOCK,LOCKaINK PEN,LOLLIPOP,LONG DRUM,LOTION BOTTLE,LOTUS,LOUDLY CRYING FACE,LUGGAGE,",
    "LUNGS,LYING FACE,MAGE,MAGIC WAND,MAGNET,MAMMOTH,MAN,MANGO,MANS SHOE,MANTELPIECE CLOCK,",
    "MANUAL WHEELCHAIR,MAPLE LEAF,MARTIAL ARTS UNIFORM,MASK WORKk,MATE DRINK,MAXIMIZE,MEAT ON B!,",
    "MELON,MELTING FACE,MEMO,MENORAHaNINE BRANCHES,MENSk,MERPERSON,METRO,MICROBE,MICROPH!,",
    "MICROSCOPE,*THIRD WHITE i /INDEX,MILKY WAY,MINIBUS,MINIDISC,MINIMIZE,MIRROR,MIRROR BALL,",
    "MODERN PENTATHLON,M!Y-MOUTH FACE,MONKEY,MONKEY FACE,MONOGRAM FOR EARTH,MONORAIL,MOOD BUBBLE,",
    "MOSQUE,MOSQUITO,MOTHER CHRISTMAS,MOTORIZED WHEELCHAIR,MOTORWAY,MOUNT FUJI,MOUSE,MOUTH,",
    "MOVIE CAMERA,MOYAI,MULTIPLE MUSICAL NOTES,MUSHROOM,NAIL POLISH,NAME BADGE,NATIONAL PARK,",
    "NAUSEATED FACE,NAZAR AMULET,NECKTIE,NERD FACE,NESTaEGGS,NESTING DOLLS,NEUTRAL FACE,NEWSPAPER,",
    "NIGHTaSTARS,NINJA,NON-POTABLE WATERk,NORTHEAST-/AIRPLANE,NOSE,NOTE,NOTEBOOK,",
    "NOTEBOOKaDECORATIVE COVER,NUThBOLT,OCTAGONALd,OCTOPUS,ODEN,OFFICE BUILDING,OIL DRUM,OK HANDd,",
    "OLIVE,OMk,ONaEXCLAMATIONnas ief,! BUTTON MOUSE,!-PIECE SWIMSUIT,ONION,ORANGUTAN,OTTER,",
    "OUTBOX TRAY,OVERHEATED FACE,OVERLAP,OWL,OX,OYSTER,PACKAGE,PAGE,PAGE FACING UP,PAGER,PAGES,",
    "PAGODA,PALMS UP TOGETHER,PANCAKES,PANDA FACE,PAPERCLIP,PARACHUTE,PARROT,PARTY POPPER,",
    "PASSENGER SHIP,PASSPORT CONTROL,PAW PRINTS,PEACH,PEACOCK,PEANUTS,PEAR,PEDESTRIAN,",
    "PEN OVER STAMPED ENVELOPE,PENGUIN,PENSIVE FACE,PEOPLE HUGGING,PERFORMING ARTS,",
    "PERSEVERING FACE,PERSONAL COMPUTER,PETRI DISH,PICKUP TRUCK,PIE,PIG,PILE OF POO,PILL,PINATA,",
    "PINCHED FINGERS,PINCHING HAND,PINE DECORATION,PINEAPPLE,PISTOL,PLACARD,PLACE OF WORSHIP,",
    "PLAYGROUND SLIDE,PLUNGER,POCKET CALCULATOR,POODLE,POPCORN,PORTABLE STEREO,POSTAL HORN,",
    "POSTBOX,POT OF FOOD,POTABLE WATERk,POTATO,POTTED PLANT,POUCH,POULTRY LEG,POURING LIQUID,",
    "PRAYER BEADS,PRETZEL,PRINCE,PRINCESS,PRINTER,PRINTER ICON,PROBING CANE,PROHIBITEDd,",
    "PUBLIC ADDRESS LOUDSPEAKER,PURPLE HEART,PURSE,PUSHPIN,PUT LITTER IN ITS PLACEk,RABBIT,",
    "RABBIT FACE,RACCOON,RADIO,RADIO BUTTON,RAINBOW,RAM,RAT,RAZOR,RECEIPT,RECREATIONAL VEHICLE,",
    "RELIEVED FACE,REMINDER RIBBON,RESTROOM,REVOLVING HEARTS,RHINOCEROS,RIBBON,RIFLE,",
    "i-FACING FIST,i-/MAGNIFYING GLASS,RING,RING BUOY,RINGED PLANET,RINGING BELL,",
    "ROASTED SWEET POTATO,ROBOT FACE,ROCK,ROCKET,ROLL OF PAPER,ROLLED-UP NEWSPAPER,",
    "ROLLING ON THE FLOOR LAUGHING,ROOSTER,ROSE,ROSETTE,ROWBOAT,RUGBY FOOTBALL,RUNNER,",
    "RUNNING SHIRTaSASH,SAKE BOTTLEhCUP,SALT SHAKER,SALUTING FACE,SANDWICH,",
    "SANS-SERIF INTERROBANG ORNAMENT,SARI,SATELLITE,SATELLITE ANTENNA,SAUROPOD,SAXOPH!,SCARF,",
    "SCHOOL,SCHOOL SATCHEL,SCOOTER,SCORPION,SCREEN,SCREWDRIVER,SCRIPT LIGATURE ET ORNAMENT,SCROLL,",
    "SEAL,SEAT,SECOND PLACE MEDAL,SEE-NO-EVIL MONKEY,SEEDLING,SELFIE,",
    "SERIOUS FACEaSYMBOLS COVERING MOUTH,SEWING NEEDLE,SHALLOW PAN OF FOOD,SHARK,SHAVED ICE,SHEEP,",
    "SHIELD,SHIP,SHOCKED FACEaEXPLODING HEAD,SHOOTING STAR,SHORTCAKE,SHORTS,SHOWER,SHRIMP,SHRUG,",
    "SIGN OF THE HORNS,SILHOUETTE OF JAPAN,SKATEBOARD,SKIhSKI BOOT,SKULL,SKUNK,SLED,SLEEPY FACE,",
    "SLEUTH OR SPY,SLICE OF PIZZA,SLOT MACHINE,SLOTH,SMIRKING FACE,SMOKINGk,SNAIL,SNAKE,",
    "SNEEZING FACE,SNOW CAPPED MOUNTAIN,SNOWBOARDER,SOCKS,SOFTBALL,SOONai$ef,SPAGHETTI,",
    "SPARKLING HEART,SPEAK-NO-EVIL MONKEY,SPEAKER,SPEAKING HEAD IN SILHOUETTE,SPEECH BALLOON,",
    "SPEEDBOAT,SPIDER,SPIDER WEB,SPLASHING SWEATk,SPONGE,SPOOL OF THREAD,SPOON,SPORTS MEDAL,",
    "SPOUTING WHALE,SQUID,STADIUM,STAMPED ENVELOPE,STANDING PERSON,STATION,STATUE OF LIBERTY,",
    "STEAM LOCOMOTIVE,STEAMING BOWL,STETHOSCOPE,STICK FIGURE,STOCK CHART,STRAIGHT RULER,",
    "STRAWBERRY,STUDIO MICROPH!,STUFFED FLATBREAD,STUPA,SUNaFACE,SUNFLOWER,SUNRISE,",
    "SUNRISE OVER MOUNTAINS,SUNSET OVER BUILDINGS,SUPERHERO,SUPERVILLAIN,SURFER,SUSHI,",
    "SUSPENSION RAILWAY,SWAN,SWASH AMPERSAND ORNAMENT,SWIMMER,SYMBOL FORnS CHAPTER,SYNAGOGUE,",
    "SYRINGE,T-REX,T-SHIRT,TABLE TENNIS PADDLEhBALL,TACO,TAKEOUT BOX,TAMALE,TANABATA TREE,",
    "TANGERINE,TAPE CARTRIDGE,TAXI,TEACUP WITHOUT HANDLE,TEAPOT,TEAR-OFF CALENDAR,TEDDY BEAR,",
    "TELESCOPE,TELEVISION,TENNIS RACQUEThBALL,TEST TUBE,THERMOMETER,THINKING FACE,",
    "THIRD PLACE MEDAL,THONG SANDAL,THOUGHT BALLOON,TICKET,TIGER,TIGER FACE,TIRED FACE,TOILET,",
    "TOKYO TOWER,TOMATO,TONGUE,TOOLBOX,TOOTH,TOOTHBRUSH,TORTOISE SHELLzED LATIN+bS,TRACKBALL,",
    "TRACTOR,TRAIN,TRAM,TRAM CAR,xaROUNDED CORNERS,TRIDENT EMBLEM,TROLL,TROLLEYBUS,TROPHY,TRUMPET,",
    "TULIP,TUMBLER GLASS,TURKEY,TURTLE,TWISTED i$eS,UNAMUSED FACE,UNICORN FACE,",
    "UP DOWN SANS-SERIFe,UPSIDE-DOWN FACE,VAMPIRE,u TRAFFIC LIGHT,VERY BOLD GREEK CROSS,",
    "VIBRATION MODE,VIDEOCASSETTE,VIOLIN,VOIDED GREEK CROSS,VOLCANO,VOLLEYBALL,WAFFLE,WASTEBASKET,",
    "WATERMELON,WEDDING,W& LIFTER,WHALE,WHEEL,WILTED FLOWER,WINDOW,WINE GLASS,WINKING FACE,",
    "WIRED KEYBOARD,WOLF FACE,WOMAN,WOMANaBUNNY EARS,WOMENSk,WOOD,WORLD MAP,WORM,WORRIED FACE,",
    "WRAPPED PRESENT,WRENCH,WRESTLERS,X-RAY,YAWNING FACE,YELLOW HEART,YO-YO,ZEBRA FACE,",
    "ZIPPER-MOUTH FACE,ZOMBIE;AIRPLANE :ARRIVING,DEPARTURE;ALCHEMICALk FOR :AIR,ALEMBIC,ALKALI,",
    "ALKALI-2,ALUM,AMALGAM,ANTIMONY ORE,AQUA REGIA,AQUA REGIA-2,AQUA VITAE,AQUA VITAE-2,",
    "AQUAFORTIS,ARSENIC,ASHES,AURIPIGMENT,BATH OF MARY,BATH OF VAPOURS,BISMUTH ORE,] SULFUR,BORAX,",
    "BORAX-2,BORAX-3,BRICK,CADUCEUS,CALX,CAPUT MORTUUM,CINNABAR,COPPER ANTIMONIATE,COPPER ORE,",
    "CROCUS OF COPPER,CROCUS OF COPPER-2,CROCUS OF IRON,CRUCIBLE,CRUCIBLE-2~5,DAY-NIGHT,DISSOLVE,",
    "DISSOLVE-2,DISTILL,EARTH,FIRE,GOLD,GUM,HALF DRAM,HALF OUNCE,HORSE DUNG,HOUR,IRON ORE,",
    "IRON ORE-2,IRON-COPPER ORE,LEAD ORE,LODEST!,MARCASITE,MERCURY SUBLIMATE,MERCURY SUBLIMATE-2,",
    "MERCURY SUBLIMATE-3,MONTH,NIGHT,NITRE,OIL,PHILOSOPHERS SULFUR,POT ASHES,POWDER,",
    "POWDERED BRICK,PRECIPITATE,PURIFY,PUTREFACTION,QUICK LIME,QUINTESSENCE,REALGAR,REALGAR-2,",
    "REGULUS,REGULUS OF ANTIMONY,REGULUS OF ANTIMONY-2,REGULUS OF IRON,REGULUS-2~4,RETORT,",
    "ROCK SALT,ROCK SALT-2,SAL-AMMONIAC,SALT,SALT OF ANTIMONY,SALT OF COPPER ANTIMONIATE,",
    "SCEPTER OF JOVE,SILVER,SOAP,SPIRIT,STARRED TRIDENT,STRATUM SUPER STRATUM,",
    "STRATUM SUPER STRATUM-2,SUBLIMATION,SULFUR,TARTAR,TARTAR-2,TIN ORE,TINCTURE,TRIDENT,TUTTY,",
    "URINE,VERDIGRIS,VINEGAR,VINEGAR OF ANTIMONY,VINEGAR-2,VINEGAR-3,VITRIOL,VITRIOL-2,WATER,WAX;",
    "ALCHEMICALk FOR SUBLIMATE OF :ANTIMONY,COPPER,SALT OF ANTIMONY,SALT OF COPPER;",
    "ARROW /:i$ THEN CURVING SOUTH WEST,UP$ THEN NORTH WEST;BABY :ANGEL,BOTTLE,CHICK,SYMBOL;",
    "BACK :OF ENVELOPE,WITH s$ef;BALLOT :BOLD SCRIPT X,SCRIPT X;BALLOT BOXa:BALLOT,BOLD CHECK,",
    "BOLD SCRIPT X,SCRIPT X;BANKNOTEa:DOLLARd,EUROd,POUNDd,YENd;BAR :CHART,OF SOAP;",
    "BEAMED :ASCENDING MUSICAL NOTES,DESCENDING MUSICAL NOTES;BELL :PEPPER,WITH CANCELLATION q;",
    "] :DOWN /BACKHAND INDEX,DOWN-/ISOSCELES i x,DROPLET,FOLDER,HARD SHELL FLOPPY DISK,HEART,",
    "s /BACKHAND INDEX,s-/ISOSCELES i x,PENNANT,PUSHPIN,i /BACKHAND INDEX,i-/ISOSCELES i x,",
    "ROSETTE,SKULLhCROSSB!S,= BUTTON,TOUCHT! TELEPH!,UP /BACKHAND INDEX,UP-/ISOSCELES i x;",
    "] CHESS :EQUIHOPPER,EQUIHOPPER ROTATED NINETY DEGREES,KING ROTATED NINETY DEGREES,",
    "KING ROTATED |w @TY DEGREES,KNIGHT-BISHOP,KNIGHT-QUEEN,KNIGHT-ROOK,",
    "PAWN ROTATED NINETY DEGREES,PAWN ROTATED |w @TY DEGREES,QUEEN ROTATED NINETY DEGREES,",
    "QUEEN ROTATED |w @TY DEGREES,ROOK ROTATED NINETY DEGREES,ROOK ROTATED |w @TY DEGREES;",
    "] CHESS BISHOP ROTATED :NINETY DEGREES,|w @TY DEGREES;",
    "] CHESS KNIGHT ROTATED :FORTY-FIVE DEGREES,NINETY DEGREES,!w THIRTY-FIVE DEGREES,",
    "rw FIFTEEN DEGREES,|w @TY DEGREES,|w TWENTY-FIVE DEGREES;] CHESS TURNED :BISHOP,KING,KNIGHT,",
    "PAWN,QUEEN,ROOK;] MEDIUM m :DIAMOND,LOZENGE;] SLIGHTLY m :#,=;] TINY :DIAMOND,LOZENGE,=;",
    "] VERY m :DIAMOND,LOZENGE;BLOCK :SEXTANT-12345,SEXTANT-12346,SEXTANT-1234~1236,SEXTANT-12356,",
    "SEXTANT-123~126,SEXTANT-1245,SEXTANT-12456,SEXTANT-1246,SEXTANT-1256,SEXTANT-12~16,",
    "SEXTANT-134,SEXTANT-1345,SEXTANT-13456,SEXTANT-1346,SEXTANT-1356,SEXTANT-136,SEXTANT-145,",
    "SEXTANT-1456,SEXTANT-146,SEXTANT-156,SEXTANT-1~6,SEXTANT-2345,SEXTANT-23456,SEXTANT-2346,",
    "SEXTANT-234~236,SEXTANT-2356,SEXTANT-23~26,SEXTANT-245,SEXTANT-2456,SEXTANT-256,SEXTANT-345,",
    "SEXTANT-3456,SEXTANT-346,SEXTANT-34~36,SEXTANT-356,SEXTANT-45,SEXTANT-456,SEXTANT-46,",
    "SEXTANT-56;BLUE :BOOK,HEART;BOLD :& SPOKED ASTERISK,FIVE SPOKED ASTERISK,GREEK CROSS,SALTIRE,",
    "SIX SPOKED ASTERISK,WHITE #,WHITE =;BOWL :OF HYGIEIA,WITH SPOON;",
    "BOX DRAWINGS LIGHT :DIAGONAL DIAMOND,vau q;BOX DRAWINGS LIGHT DIAGONAL *:s TO LOWER CENTRE,",
    "s TO LOWER CENTRE TO *i,s TO UPPER CENTRE TO *i,s TO UPPER CENTRE TO *i TO LOWER CENTRE,",
    "i TO LOWER CENTRE,i TO UPPER CENTRE TO *s TO LOWER CENTRE;",
    "BOX DRAWINGS LIGHT DIAGONAL UPPER CENTRE TO *:s,sh*i TO LOWER CENTRE,s TO LOWER CENTRE,",
    "s TO LOWER CENTRE TO *i,i,ih*s TO LOWER CENTRE,i TO LOWER CENTRE,i TO LOWER CENTRE TO *s;",
    "BYZANTINE MUSICALk :ANATRICHISMA,ANTIKENOKYLISMA,ANTIKENOMA,APESO EKFONITIKON,APESO EXO NEO,",
    "APLI,APODERMA ARCHAION,APODERMA NEO,APOSTROFOI SYNDESMOS NEO,APOSTROFOI TELOUS ICHIMATOS,",
    "APOSTROFOS,APOSTROFOS DIPLI,APOSTROFOS NEO,APOTHEMA,ARGON,ARGOSYNTHETON,CHAMILI,CHAMILON,",
    "CHOREVMA ARCHAION,CHOREVMA NEO,CHROA KLITON,CHROA SPATHI,CHROA ZYGOS,DASEIA,DIARGON,",
    "DIASTOLI APLI MEGALI,DIASTOLI APLI MIKRI,DIASTOLI DIPLI,DIASTOLI THESEOS,DIFTOGGOS OU,",
    "DIGORGON,DIGRAMMA GG,DIPLI,DIPLI ARCHAION,DYO,EKSTREPTON,ELAFRON,ENARXIS KAI FTHORA VOU,",
    "ENDOFONON,EPEGERMA,ETERON ARGOSYNTHETON,ETERON PARAKALESMA,EXO EKFONITIKON,",
    "FANEROSIS DIFONIAS,FANEROSIS MONOFONIAS,FANEROSIS TETRAFONIAS,FHTORA SKLIRON CHROMA VASIS,",
    "GENIKI DIESIS,GENIKI YFESIS,GORGOSYNTHETON,GORTHMIKON N APLOUN,GORTHMIKON N DIPLOUN,",
    "GRONTHISMATA,ICHADIN,IMIDIARGON,IMIFONON,IMIFTHORA,IMIFTHORON,ISAKIA TELOUS ICHIMATOS,",
    "ISON ARCHAION,ISON NEO,KATAVA TROMIKON,KATAVASMA,KATHISTI,KENTIMA ARCHAION,KENTIMA NEO ANO,",
    "KENTIMA NEO KATO,KENTIMA NEO MESO,KENTIMATA,KLASMA,KLASMA ANO,KLASMA KATO,KONTEVMA,",
    "KONTEVMA ALLO,KORONIS,KOUFISMA,KRATIMA ALLO,KRATIMA ARCHAION,KRATIMA NEO,KRATIMATA,",
    "KRATIMOKOUFISMA,KRATIMOYPORROON,KREMASTI,KYLISMA,LEMOI,LYGISMA,MIKRON ISON,NANA,",
    "OLIGON ARCHAION,OLIGON NEO,OMALON,OXEIA DIPLI,OXEIA EKFONITIKON,OXEIA NEO,OXEIAI ARCHAION,",
    "OYRANISMA ARCHAION,OYRANISMA NEO,PARAKALESMA ARCHAION,PARAKALESMA NEO,PARAKLITIKI,",
    "PARAKLITIKI ARCHAION,PARAKLITIKI NEO,PARICHON,PELASTON,PELASTON NEO,PERISPOMENI,PETASMA,",
    "PETASTI,PETASTOKOUFISMA,PIASMA ARCHAION,PIASMA NEO,PSIFISTOLYGISMA,PSIFISTON,PSIFISTON NEO,",
    "PSIFISTOPARAKALESMA,PSIFISTOSYNAGMA,PSILI,PSILON,RAPISMA,REVMA,SAXIMATA,SEISMA,SEISMA NEO,",
    "STAVROS,STAVROS APODEXIA,STIGMA,STRAGGISMATA,SYNAGMA ARCHAION,SYNAGMA META STAVROU,",
    "SYNAGMA NEO,SYNEVMA,SYRMA,SYRMATIKI,TELEIA,TESSERA,TETRAPLI,THEMA,THEMA APLOUN,",
    "THEMATISMOS ESO,THEMATISMOS EXO,THES KAI APOTHES,THITA,TINAGMA,TRIA,TRIGORGON,TRIPLI,",
    "TROMIKOLYGISMA,TROMIKON ALLO,TROMIKON ARCHAION,TROMIKON NEO,TROMIKOPARAKALESMA,",
    "TROMIKOPSIFISTON,TROMIKOSYNAGMA,VAREIA DIPLI,VAREIA EKFONITIKON,VAREIA NEO,VAREIAI ARCHAION,",
    "VATHY,XIRON KLASMA,YFEN ANO,YFEN KATO,YPOKRISIS,YPOKRISIS DIPLI,YPORROI,YPSILI;",
    "BYZANTINE MUSICALk AGOGI :ARGI,ARGOTERI,GORGI,GORGOTERI,MESI,METRIA,POLI ARGI,POLI GORGI;",
    "BYZANTINE MUSICALk ARKTIKO :DI,GA,KE,NI,PA,VOU,ZO;",
    "BYZANTINE MUSICALk DIESIS :APLI DYO DODEKATA,DIGRAMMOS EX DODEKATA,",
    "MONOGRAMMOS TESSERA DODEKATA,TETARTIMORION,TRIGRAMMOS OKTO DODEKATA,TRITIMORION;",
    "BYZANTINE MUSICALk DIGORGON PARESTIGMENON :ARISTERA ANO,ARISTERA KATO,DEXIA;",
    "BYZANTINE MUSICALk FTHORA :ARCHAION,ARCHAION DEYTEROU ICHOU,ENARMONIOS ANTIFONIA,",
    "I YFESIS TETARTIMORION,MALAKON CHROMA DIFONIAS,MALAKON CHROMA MONOFONIAS,NAOS ICHOS,NENANO,",
    "SKLIRON CHROMA SYNAFI,SKLIRON DIATONON DI;BYZANTINE MUSICALk FTHORA DIATONIKI :DI,KE,NANA,",
    "NI ANO,NI KATO,PA,ZO;BYZANTINE MUSICALk GORGON :ARCHAION,NEO ANO,NEO KATO,",
    "PARESTIGMENON ARISTERA,PARESTIGMENON DEXIA;BYZANTINE MUSICALk KENTIMATA :ARCHAION,NEO ANO,",
    "NEO KATO,NEO MESO;BYZANTINE MUSICALk LEIMMA :DYO CHRONON,ENOS CHRONOU,IMISEOS CHRONOU,",
    "TESSARON CHRONON,TRION CHRONON;BYZANTINE MUSICALk MARTYRIA :ALLI DEYTEROS ICHOS,",
    "ALLI PROTOS ICHOS,DEYTEROS ICHOS,LEGETOS ICHOS,PLAGIOS ICHOS,PLAGIOS TETARTOS ICHOS,",
    "PROTOS ICHOS,PROTOVARYS ICHOS,TETARTOS ICHOS,TETARTOS LEGETOS ICHOS,TRIFONIAS,TRITOS ICHOS,",
    "VARYS ICHOS;BYZANTINE MUSICALk SIMANSIS :ARSEOS,ARSEOS DISIMOU,ARSEOS TETRASIMOU,",
    "ARSEOS TRISIMOU,THESEOS,THESEOS DISIMOU,THESEOS TETRASIMOU,THESEOS TRISIMOU;",
    "BYZANTINE MUSICALk YFESIS :APLI DYO DODEKATA,DIGRAMMOS EX DODEKATA,",
    "MONOGRAMMOS TESSERA DODEKATA,TRIGRAMMOS OKTO DODEKATA,TRITIMORION;CARD :FILE BOX,INDEX,",
    "INDEX DIVIDERS;CAT FACEa:TEARS OF JOY,WRY SMILE;CHARTa:DOWN$ TREND,UP$ TREND,UP$ TRENDhYENd;",
    "CHECKER :BOARD,BOARD FILL;#D :ANTICLOCKWISEe,CaOVERLAID BACKSLASH,CC,CD,CROSScEE,",
    "CROSS POMMEE,DOLLARdaOVERLAID BACKSLASH,HUMAN FIGURE,IDEOGRAPH ACCEPT,IDEOGRAPH ADVANTAGE,",
    "INFORMATION SOURCE,=,x,WZ,ZEROaSLASH;#D CROSScEEa:_ %S,| %S;#D ITALIC LATIN+b:C,R;",
    "CLINKING :BEER MUGS,GLASSES;CLOCK FACE :& OCLOCK,&-THIRTY,ELEVEN OCLOCK,ELEVEN-THIRTY,",
    "FIVE OCLOCK,FIVE-THIRTY,_ OCLOCK,_-THIRTY,NINE OCLOCK,NINE-THIRTY,! OCLOCK,!-THIRTY,@ OCLOCK,",
    "@-THIRTY,SIX OCLOCK,SIX-THIRTY,TEN OCLOCK,TEN-THIRTY,r OCLOCK,r-THIRTY,TWELVE OCLOCK,",
    "TWELVE-THIRTY,| OCLOCK,|-THIRTY;CLOCKWISE :DOWN$hUP$ OPEN #eS,ihs SEMI#eS;",
    "CLOCKWISE i$hs$ OPEN # :ARROWS,ARROWSa#D ! OVERLAY;CLOSED :BOOK,LOCKaKEY,UMBRELLA;",
    "CLOSED MAILBOXa:LOWERED FLAG,RAISED FLAG;CLOUDa:LIGHTNING,RAIN,SNOW,TORNADO;",
    "COMBINING GREEK MUSICAL :PENTASEME,TETRASEME,TRISEME;CONSTRUCTION :SIGN,WORKER;",
    "COUNTING ROD TENS.:&,FIVE,_,NINE,!,@,SIX,r,|;COUNTING ROD UNIT.:&,FIVE,_,NINE,!,@,SIX,r,|;",
    "CROSS :POMMEE,POMMEEaHALF-#j;CROSSED :FLAGS,NEGATIVE =D LATIN+bP;CRYING :CAT FACE,FACE;",
    "DESKTOP :COMPUTER,WINDOW;DIAMOND :SHAPEaA % INSIDE,TARGET;DIGIT :& COMMA,FIVE COMMA,_ COMMA,",
    "NINE COMMA,! COMMA,@ COMMA,SIX COMMA,r COMMA,| COMMA,ZERO COMMA,ZERO FULL STOP;",
    "DIGRAM FOR :EARTH,EARTHLY HEAVEN,EARTHLY HUMAN,HEAVENLY EARTH,HUMAN EARTH;",
    "DINGBAT :#D SANS-SERIF.ZERO,NEGATIVE #D SANS-SERIF.ZERO;DISAPPOINTED :BUT RELIEVED FACE,FACE;",
    "DIZZY :FACE,SYMBOL;DOCUMENTa:PICTURE,TEXT,TEXThPICTURE;DOMINO TILE :v BACK,v-00-00~06,",
    "v-01-00~06,v-02-00~06,v-03-00~06,v-04-00~06,v-05-00~06,v-06-00~06,u BACK,u-00-00~06,",
    "u-01-00~06,u-02-00~06,u-03-00~06,u-04-00~06,u-05-00~06,u-06-00~06;DOWN-/:RED x,m RED x;",
    "DOWNWARD FACING :[,[a%,NOTCHED [,NOTCHED [a%;DOWN$ :ARROWhi ! &H BLOCK,COMPRESSEDe,",
    "FINGER-POSTe,HEAVYe,HEAVY COMPRESSEDe,ROCKET,SANS-SERIFe,=De,xeHEAD,WHITEe WITHIN xeHEAD;",
    "DOWN$ea:EQUILATERALeHEAD,LARGE xeHEAD,MEDIUM xeHEAD,NOTCHED TAIL,m EQUILATERALeHEAD,m xeHEAD;",
    "DOWN$ x-HEADEDea:BOLD SHAFT,HEAVY SHAFT,MEDIUM SHAFT,NARROW SHAFT,VERY HEAVY SHAFT;",
    "EAR :OF MAIZE,OF RICE,WITH HEARING AID;EARTH GLOBE :AMERICAS,ASIA-AUSTRALIA,EUROPE-AFRICA;",
    "ELECTRIC :LIGHT BULB,PLUG,TORCH;EMOJI COMP!NT :BALD,CURLY HAIR,RED HAIR,WHITE HAIR;",
    "EMOJI MODIFIER FITZPATRICK :TYPE-1-2,TYPE-3~6;EMPTY :DOCUMENT,NEST,NOTE,NOTE PAD,NOTE PAGE,",
    "PAGE,PAGES;ENVELOPEa:DOWN$ef,LIGHTNING;EUROPEAN :CASTLE,POST OFFICE;",
    "EXTREMELY HEAVY :FIVE SPOKED ASTERISK,GREEK CROSS,SALTIRE,SIX SPOKED ASTERISK,WHITE #,",
    "WHITE =;FACE :HOLDING BACK TEARS,MASSAGE,PALM,SAVOURING DELICIOUS FOOD,SCREAMING IN FEAR,",
    "THROWING A KISS,WITHOUT MOUTH;FACEa:COLD SWEAT,COWBOY HAT,DIAGONAL MOUTH,",
    "FINGER COVERING CLOSED LIPS,HEAD-BANDAGE,LOOK OF TRIUMPH,MEDICAL MASK,MONOCLE,",
    "NO GOOD GESTURE,OK GESTURE,! EYEBROW RAISED,PARTY HORNhPARTY HAT,PEEKING EYE,PLEADING EYES,",
    "ROLLING EYES,STUCK-OUT TONGUE,TEARS OF JOY,THERMOMETER,UNEVEN EYEShWAVY MOUTH;",
    "FACEaOPEN :EYEShHAND OVER MOUTH,MOUTH,MOUTHhCOLD SWEAT,MOUTH VOMITING;",
    "FACEaSTUCK-OUT TONGUEh:TIGHTLY-CLOSED EYES,WINKING EYE;FAX :ICON,MACHINE;FILE :CABINET,",
    "FOLDER;FILM :FRAMES,PROJECTOR;FIRE :ENGINE,EXTINGUISHER;FIRST QUARTER MOON :SYMBOL,WITH FACE;",
    "FLYING :DISC,ENVELOPE,SAUCER;FORKh:KNIFE,KNIFEaPLATE;_ :LEAF CLOVER,POINTED ] STAR;",
    "FRAMEa:AN X,PICTURE,TILES;FULL MOON :SYMBOL,WITH FACE;GREEK INSTRUMENTAL NOTATION :SYMBOL-1,",
    "SYMBOL-11~14,SYMBOL-17~19,SYMBOL-2,SYMBOL-23~27,SYMBOL-29,SYMBOL-30,SYMBOL-32,SYMBOL-36~40,",
    "SYMBOL-4,SYMBOL-42,SYMBOL-43,SYMBOL-45,SYMBOL-47~54,SYMBOL-5,SYMBOL-7,SYMBOL-8;",
    "GREEK VOCAL NOTATION :SYMBOL-10~24,SYMBOL-1~9,SYMBOL-50~54;GREEN :APPLE,BOOK,HEART,SALAD;",
    "GRINNING :CAT FACEaSMILING EYES,FACE;GRINNING FACEa:! LARGEh! m EYE,SMILING EYES,STAR EYES;",
    "HANDaINDEX :AND *FINGERS CROSSED,FINGERhTHUMB CROSSED;HEART :DECORATION,HANDS;HEARTa:ARROW,",
    "RIBBON,TIP ON THE s;HEAVY :AMPERSAND ORNAMENT,DOLLARd,& SPOKED ASTERISK,EQUALSd,",
    "FIVE POINTED ] STAR,FIVE SPOKED ASTERISK,v FILL,INTERROBANG ORNAMENT,LATIN CROSS,",
    "LIGATURE OPEN ET ORNAMENT,SALTIRE,SANS-SERIF INTERROBANG ORNAMENT,",
    "SCRIPT LIGATURE ET ORNAMENT,SIX POINTED ] STAR,SIX SPOKED ASTERISK,WHITE #,WHITE =;",
    "HEAVYe SHAFT WIDTH :!,! HALF,! THIRD,| THIRDS;HEAVY DOWN$ea:EQUILATERALeHEAD,",
    "LARGE EQUILATERALeHEAD;HEAVY & POINTED :] STAR,PINWHEEL STAR;HEAVY s$ea:EQUILATERALeHEAD,",
    "LARGE EQUILATERALeHEAD;HEAVY NORTH EAST /:BUD,VINE LEAF;HEAVY NORTH WEST /:BUD,VINE LEAF;",
    "HEAVY i$ea:EQUILATERALeHEAD,LARGE EQUILATERALeHEAD;HEAVY SOUTH EAST /:BUD,VINE LEAF;",
    "HEAVY SOUTH WEST /:BUD,VINE LEAF;HEAVY TWELVE POINTED :] STAR,PINWHEEL STAR;",
    "HEAVY UP$ea:EQUILATERALeHEAD,LARGE EQUILATERALeHEAD;HIGH-SPEED :TRAIN,TRAINaBULLET NOSE;",
    "HOLLOW QUILT = :ORNAMENT,ORNAMENT IN ] =;v ! &H :BLOCK-1358,BLOCK-2~7;HORSE :FACE,RACING;",
    "HOT :DOG,PEPPER;HOUSE :BUILDING,BUILDINGS,WITH GARDEN;ICE :CREAM,CUBE,HOCKEY STICKhPUCK;",
    "IDEOGRAPHIC TALLYn :FIVE,_,!,r,|;INPUTk FOR :LATIN+ LETTERS,LATIN LETTERS,LATIN m LETTERS,",
    "NUMBERS,SYMBOLS;INVERSE :CHECKn,CHECKER BOARD FILL,DOWN$eaTIP s$,MEDIUM SHADE;",
    "JAPANESE :CASTLE,DOLLS,GOBLIN,OGRE,POST OFFICE,SYMBOL FOR BEGINNER;",
    "KISSING :CAT FACEaCLOSED EYES,FACE,FACEaCLOSED EYES,FACEaSMILING EYES;LARGE :BROWN #,BROWN =,",
    "GREEN #,GREEN =,PURPLE #,PURPLE =,RED #,RED =,YELLOW #,YELLOW =;LARGE BLUE :#,DIAMOND,=;",
    "LARGE ORANGE :#,DIAMOND,=;LAST QUARTER MOON :SYMBOL,WITH FACE;s :ANGER BUBBLE,",
    "HAND TELEPH! RECEIVER,LUGGAGE,i SANS-SERIFe,SPEECH BUBBLE,THIRD WHITE i /INDEX,",
    "THOUGHT BUBBLE,TRIANGULAR ! QUARTER BLOCK,WRITING HAND;",
    "sh:LOWERhi TRIANGULAR r QUARTERS BLOCK,LOWER ! &H BLOCK,i TRIANGULAR HALF BLOCK,",
    "UPPERhi TRIANGULAR r QUARTERS BLOCK,UPPER ! &H BLOCK;s HALF :#,FOLDER,",
    "INVERSE MEDIUM SHADEhi HALF BLOCK,MEDIUM SHADE,RUNNING MAN;s HALF #a:%,_ %S,r %S,| %S;",
    "s$ :ARROWhUPPERhLOWER ! &H BLOCK,BACK-TILTED SHADOWED WHITEe,BOTTOM-SHADED WHITEe,",
    "COMPRESSEDe,FINGER-POSTe,FRONT-TILTED SHADOWED WHITEe,HAND,HEAVYe,HEAVY COMPRESSEDe,",
    "s-SHADED WHITEe,i-SHADED WHITEe,ROCKET,SANS-SERIFe,=De,TOP SHADED WHITEe,xeHEAD,",
    "WHITEe WITHIN xeHEAD;s$ea:EQUILATERALeHEAD,LARGE xeHEAD,MEDIUM xeHEAD,NOTCHED TAIL,",
    "m EQUILATERALeHEAD,m xeHEAD;s$ x-HEADEDea:BOLD SHAFT,HEAVY SHAFT,MEDIUM SHAFT,NARROW SHAFT,",
    "VERY HEAVY SHAFT;LIGHT :CHECKn,& SPOKED ASTERISK,FIVE POINTED ] STAR,FIVE SPOKED ASTERISK,",
    "_ POINTED ] STAR,GREEK CROSS,RAIL,SALTIRE,SIX SPOKED ASTERISK,r POINTED ] STAR,",
    "TWELVE POINTED ] STAR,WHITE =;LIGHTNING :MOOD,MOOD BUBBLE;LOVE :HOTEL,LETTER;LOW :BATTERY,",
    "BiNESSk;LOWER :HALF MEDIUM SHADE,i SHADOWED WHITE #,i TRIANGULAR MEDIUM SHADE,",
    "TRIANGULAR ! QUARTER BLOCK;LOWER s :BALLPOINT PEN,CRAYON,FOUNTAIN PEN,PAINTBRUSH,PENCIL,",
    "TRIANGULAR MEDIUM SHADE;LOWER s BLOCK DIAGONAL LOWER *s TO LOWER :CENTRE,i;",
    "LOWER s BLOCK DIAGONAL UPPER CENTRE TO :LOWER *i,LOWER i,UPPER *i;",
    "LOWER s BLOCK DIAGONAL UPPER s TO :LOWER CENTRE,LOWER *i,UPPER *i;",
    "LOWER s BLOCK DIAGONAL UPPER *s TO LOWER :CENTRE,*i,i;",
    "LOWER i BLOCK DIAGONAL LOWER CENTRE TO :LOWER *i,UPPER *i,UPPER i;",
    "LOWER i BLOCK DIAGONAL LOWER s TO :LOWER *i,UPPER CENTRE,UPPER *i;",
    "LOWER i BLOCK DIAGONAL LOWER *s TO UPPER :CENTRE,*i,i;",
    "LOWER i BLOCK DIAGONAL UPPER *s TO UPPER :CENTRE,i;MAHJONG TILE :AUTUMN,BACK,BAMBOO,",
    "CHRYSANTHEMUM,EAST WIND,GREEN DRAGON,JOKER,NORTH WIND,! OF BAMBOOS,! OF CHARACTERS,! OF #S,",
    "ORCHID,PLUM,RED DRAGON,SIX OF BAMBOOS,SIX OF CHARACTERS,SIX OF #S,SOUTH WIND,SPRING,SUMMER,",
    "| OF BAMBOOS,| OF CHARACTERS,| OF #S,WEST WIND,WHITE DRAGON,WINTER;",
    "MAHJONG TILE & OF :BAMBOOS,CHARACTERS,#S;MAHJONG TILE FIVE OF :BAMBOOS,CHARACTERS,#S;",
    "MAHJONG TILE _ OF :BAMBOOS,CHARACTERS,#S;MAHJONG TILE NINE OF :BAMBOOS,CHARACTERS,#S;",
    "MAHJONG TILE @ OF :BAMBOOS,CHARACTERS,#S;MAHJONG TILE r OF :BAMBOOS,CHARACTERS,#S;",
    "MAN :AND WOMAN HOLDING HANDS,DANCING,IN BUSINESS SUIT LEVITATING,IN TUXEDO,WITH GUA PI MAO,",
    "WITH TURBAN;MATHEMATICAL BOLD :EPSILONk,KAPPAk,NABLA,PARTIAL DIFFERENTIAL,PHIk,PIk,RHOk,",
    "THETAk;MATHEMATICAL BOLD+ :A,ALPHA,B,BETA,C,CHI,D,DELTA,DIGAMMA,E,EPSILON,ETA,F,G,GAMMA,H,I,",
    "IOTA,J,K,KAPPA,L,LAMDA,M,MU,N,NU,O,OMEGA,OMICRON,P,PHI,PI,PSI,Q,R,RHO,S,SIGMA,T,TAU,THETA,",
    "THETAk,U,UPSILON,V,W,X,XI,Y,Z,ZETA;MATHEMATICAL BOLD.:&,FIVE,_,NINE,!,@,SIX,r,|,ZERO;",
    "MATHEMATICAL BOLD FRAKTUR+ :A,B,C,D,E,F,G,H,I,J,K,L,M,N,O,P,Q,R,S,T,U,V,W,X,Y,Z;",
    "MATHEMATICAL BOLD FRAKTUR m :A,B,C,D,E,F,G,H,I,J,K,L,M,N,O,P,Q,R,S,T,U,V,W,X,Y,Z;",
    "MATHEMATICAL BOLD ITALIC :EPSILONk,KAPPAk,NABLA,PARTIAL DIFFERENTIAL,PHIk,PIk,RHOk,THETAk;",
    "MATHEMATICAL BOLD ITALIC+ :A,ALPHA,B,BETA,C,CHI,D,DELTA,E,EPSILON,ETA,F,G,GAMMA,H,I,IOTA,J,K,",
    "KAPPA,L,LAMDA,M,MU,N,NU,O,OMEGA,OMICRON,P,PHI,PI,PSI,Q,R,RHO,S,SIGMA,T,TAU,THETA,THETAk,U,",
    "UPSILON,V,W,X,XI,Y,Z,ZETA;MATHEMATICAL BOLD ITALIC m :A,ALPHA,B,BETA,C,CHI,D,DELTA,E,EPSILON,",
    "ETA,F,o SIGMA,G,GAMMA,H,I,IOTA,J,K,KAPPA,L,LAMDA,M,MU,N,NU,O,OMEGA,OMICRON,P,PHI,PI,PSI,Q,R,",
    "RHO,S,SIGMA,T,TAU,THETA,U,UPSILON,V,W,X,XI,Y,Z,ZETA;MATHEMATICAL BOLD SCRIPT+ :A,B,C,D,E,F,G,",
    "H,I,J,K,L,M,N,O,P,Q,R,S,T,U,V,W,X,Y,Z;MATHEMATICAL BOLD SCRIPT m :A,B,C,D,E,F,G,H,I,J,K,L,M,",
    "N,O,P,Q,R,S,T,U,V,W,X,Y,Z;MATHEMATICAL BOLD m :A,ALPHA,B,BETA,C,CHI,D,DELTA,DIGAMMA,E,",
    "EPSILON,ETA,F,o SIGMA,G,GAMMA,H,I,IOTA,J,K,KAPPA,L,LAMDA,M,MU,N,NU,O,OMEGA,OMICRON,P,PHI,PI,",
    "PSI,Q,R,RHO,S,SIGMA,T,TAU,THETA,U,UPSILON,V,W,X,XI,Y,Z,ZETA;MATHEMATICAL l-STRUCK+ :A,B,D,E,",
    "F,G,I,J,K,L,M,O,S,T,U,V,W,X,Y;MATHEMATICAL l-STRUCK.:&,FIVE,_,NINE,!,@,SIX,r,|,ZERO;",
    "MATHEMATICAL l-STRUCK m :A,B,C,D,E,F,G,H,I,J,K,L,M,N,O,P,Q,R,S,T,U,V,W,X,Y,Z;",
    "MATHEMATICAL FRAKTUR+ :A,B,D,E,F,G,J,K,L,M,N,O,P,Q,S,T,U,V,W,X,Y;MATHEMATICAL FRAKTUR m :A,B,",
    "C,D,E,F,G,H,I,J,K,L,M,N,O,P,Q,R,S,T,U,V,W,X,Y,Z;MATHEMATICAL ITALIC :EPSILONk,KAPPAk,NABLA,",
    "PARTIAL DIFFERENTIAL,PHIk,PIk,RHOk,THETAk;MATHEMATICAL ITALIC+ :A,ALPHA,B,BETA,C,CHI,D,DELTA,",
    "E,EPSILON,ETA,F,G,GAMMA,H,I,IOTA,J,K,KAPPA,L,LAMDA,M,MU,N,NU,O,OMEGA,OMICRON,P,PHI,PI,PSI,Q,",
    "R,RHO,S,SIGMA,T,TAU,THETA,THETAk,U,UPSILON,V,W,X,XI,Y,Z,ZETA;MATHEMATICAL ITALIC m :A,ALPHA,",
    "B,BETA,C,CHI,D,DELTA,%LESS I,%LESS J,E,EPSILON,ETA,F,o SIGMA,G,GAMMA,I,IOTA,J,K,KAPPA,L,",
    "LAMDA,M,MU,N,NU,O,OMEGA,OMICRON,P,PHI,PI,PSI,Q,R,RHO,S,SIGMA,T,TAU,THETA,U,UPSILON,V,W,X,XI,",
    "Y,Z,ZETA;MATHEMATICAL MONOSPACE+ :A,B,C,D,E,F,G,H,I,J,K,L,M,N,O,P,Q,R,S,T,U,V,W,X,Y,Z;",
    "MATHEMATICAL MONOSPACE.:&,FIVE,_,NINE,!,@,SIX,r,|,ZERO;MATHEMATICAL MONOSPACE m :A,B,C,D,E,F,",
    "G,H,I,J,K,L,M,N,O,P,Q,R,S,T,U,V,W,X,Y,Z;MATHEMATICAL SANS-SERIF BOLD :EPSILONk,KAPPAk,NABLA,",
    "PARTIAL DIFFERENTIAL,PHIk,PIk,RHOk,THETAk;MATHEMATICAL SANS-SERIF BOLD+ :A,ALPHA,B,BETA,C,",
    "CHI,D,DELTA,E,EPSILON,ETA,F,G,GAMMA,H,I,IOTA,J,K,KAPPA,L,LAMDA,M,MU,N,NU,O,OMEGA,OMICRON,P,",
    "PHI,PI,PSI,Q,R,RHO,S,SIGMA,T,TAU,THETA,THETAk,U,UPSILON,V,W,X,XI,Y,Z,ZETA;",
    "MATHEMATICAL SANS-SERIF BOLD.:&,FIVE,_,NINE,!,@,SIX,r,|,ZERO;",
    "MATHEMATICAL SANS-SERIF BOLD ITALIC :EPSILONk,KAPPAk,NABLA,PARTIAL DIFFERENTIAL,PHIk,PIk,",
    "RHOk,THETAk;MATHEMATICAL SANS-SERIF BOLD ITALIC+ :A,ALPHA,B,BETA,C,CHI,D,DELTA,E,EPSILON,ETA,",
    "F,G,GAMMA,H,I,IOTA,J,K,KAPPA,L,LAMDA,M,MU,N,NU,O,OMEGA,OMICRON,P,PHI,PI,PSI,Q,R,RHO,S,SIGMA,",
    "T,TAU,THETA,THETAk,U,UPSILON,V,W,X,XI,Y,Z,ZETA;MATHEMATICAL SANS-SERIF BOLD ITALIC m :A,",
    "ALPHA,B,BETA,C,CHI,D,DELTA,E,EPSILON,ETA,F,o SIGMA,G,GAMMA,H,I,IOTA,J,K,KAPPA,L,LAMDA,M,MU,N,",
    "NU,O,OMEGA,OMICRON,P,PHI,PI,PSI,Q,R,RHO,S,SIGMA,T,TAU,THETA,U,UPSILON,V,W,X,XI,Y,Z,ZETA;",
    "MATHEMATICAL SANS-SERIF BOLD m :A,ALPHA,B,BETA,C,CHI,D,DELTA,E,EPSILON,ETA,F,o SIGMA,G,GAMMA,",
    "H,I,IOTA,J,K,KAPPA,L,LAMDA,M,MU,N,NU,O,OMEGA,OMICRON,P,PHI,PI,PSI,Q,R,RHO,S,SIGMA,T,TAU,",
    "THETA,U,UPSILON,V,W,X,XI,Y,Z,ZETA;MATHEMATICAL SANS-SERIF+ :A,B,C,D,E,F,G,H,I,J,K,L,M,N,O,P,",
    "Q,R,S,T,U,V,W,X,Y,Z;MATHEMATICAL SANS-SERIF.:&,FIVE,_,NINE,!,@,SIX,r,|,ZERO;",
    "MATHEMATICAL SANS-SERIF ITALIC+ :A,B,C,D,E,F,G,H,I,J,K,L,M,N,O,P,Q,R,S,T,U,V,W,X,Y,Z;",
    "MATHEMATICAL SANS-SERIF ITALIC m :A,B,C,D,E,F,G,H,I,J,K,L,M,N,O,P,Q,R,S,T,U,V,W,X,Y,Z;",
    "MATHEMATICAL SANS-SERIF m :A,B,C,D,E,F,G,H,I,J,K,L,M,N,O,P,Q,R,S,T,U,V,W,X,Y,Z;",
    "MATHEMATICAL SCRIPT+ :A,C,D,G,J,K,N,O,P,Q,S,T,U,V,W,X,Y,Z;MATHEMATICAL SCRIPT m :A,B,C,D,F,H,",
    "I,J,K,L,M,N,P,Q,R,S,T,U,V,W,X,Y,Z;MAYAN NUMERAL :&,&EEN,ELEVEN,FIFTEEN,FIVE,_,_TEEN,NINE,",
    "NINETEEN,!,@,@TEEN,SIX,SIXTEEN,TEN,THIRTEEN,r,TWELVE,|,ZERO;MECHANICAL :ARM,LEG;",
    "MEDIUM :BOLD WHITE #,& POINTED ] STAR,& SPOKED ASTERISK,FIVE SPOKED ASTERISK,GREEK CROSS,",
    "SALTIRE,SIX POINTED ] STAR,SIX SPOKED ASTERISK,WHITE =;MEDIUM _ POINTED :] STAR,",
    "PINWHEEL STAR;MEDIUM r POINTED :] STAR,PINWHEEL STAR;MILITARY :HELMET,MEDAL;MOBILE :PH!,",
    "PH! OFF,PH!ai$e AT s;M!Y :BAG,WITH WINGS;MOON :CAKE,VIEWING CEREMONY;MOTOR :BOAT,SCOOTER;",
    "MOUNTAIN :BICYCLIST,CABLEWAY,RAILWAY;MOUSE :FACE,TRAP;MUSICAL :KEYBOARD,KEYBOARDaJACKS,NOTE,",
    "SCORE;MUSICALk :ARPEGGIATO DOWN,ARPEGGIATO UP,BRACE,BRACKET,BREATHn,BREVE,BREVIS,BREVIS REST,",
    "C CLEF,CAESURA,# X NOTEHEAD,CLIMACUS,CLIVIS,CLUSTER NOTEHEAD ],CLUSTER NOTEHEAD WHITE,CODA,",
    "COMMON TIME,CRESCENDO,CROIX,CUT TIME,DA CAPO,DAL SEGNO,DAMP,DAMP ALL,DASHED BARLINE,",
    "DECRESCENDO,DEGREE SLASH,l BARLINE,l FLAT,l SHARP,DRUM CLEF-1,DRUM CLEF-2,&H NOTE,&H REST,",
    "END BEAM,END OF STIMME,END PHRASE,END SLUR,END TIE,F CLEF,F CLEF OTTAVA ALTA,",
    "F CLEF OTTAVA BASSA,FERMATA,FERMATAj,o BARLINE,FIVE-LINE STAFF,FLAT DOWN,FLAT UP,FORTE,",
    "_-LINE STAFF,_-STRING FRETBOARD,FUSA ],FUSA WHITE,G CLEF,G CLEF OTTAVA ALTA,",
    "G CLEF OTTAVA BASSA,GLISSANDO DOWN,GLISSANDO UP,GRACE NOTE NO SLASH,GRACE NOTE SLASH,",
    "GREGORIAN C CLEF,GREGORIAN F CLEF,HALF NOTE,HALF PEDALn,HALF REST,HAUPTSTIMME,INVERTED TURN,",
    "KORON,s REPEATd,LONGA,LONGA IMPERFECTA REST,LONGA PERFECTA REST,MAXIMA,MEZZO,MINIMA,MINIMA ],",
    "MINIMA REST,MOON NOTEHEAD ],MOON NOTEHEAD WHITE,MULTI REST,MULTIPLE MEASURE REST,",
    "NATURAL DOWN,NATURAL UP,NEBENSTIMME,NOTEHEAD ],NULL NOTEHEAD,!-LINE STAFF,OTTAVA ALTA,",
    "OTTAVA BASSA,PARENTHESIS NOTEHEAD,PEDALn,PEDAL UPn,PES SUBPUNCTIS,PIANO,PLUS NOTEHEAD,",
    "PODATUS,PORRECTUS,PORRECTUS FLEXUS,QUINDICESIMA ALTA,QUINDICESIMA BASSA,REPEAT %S,",
    "REVERSE o BARLINE,i REPEATd,RINFORZANDO,SCANDICUS,SCANDICUS FLEXUS,SEGNO,SHARP DOWN,SHARP UP,",
    "SHORT BARLINE,SINGLE BARLINE,SIX-LINE STAFF,SIX-STRING FRETBOARD,SIXTEENTH NOTE,",
    "SIXTEENTH REST,SIXTY-_TH NOTE,SIXTY-_TH REST,SORI,= B,= NOTEHEAD ],= NOTEHEAD WHITE,SUBITO,",
    "THIRTY-SECOND NOTE,THIRTY-SECOND REST,r-LINE STAFF,TORCULUS,TORCULUS RESUPINUS,TR,TURN,",
    "TURN SLASH,TURN UP,|-LINE STAFF,VIRGA,VOID NOTEHEAD,WHOLE NOTE,WHOLE REST,WITH FINGERNAILS,",
    "X NOTEHEAD,Z;MUSICALk BEGIN :BEAM,PHRASE,SLUR,TIE;MUSICALk COMBINING :ACCENT,ACCENT-STACCATO,",
    "AUGMENTATION %,BEND,DOIT,l TONGUE,DOWN BOW,FLAG-1~5,FLIP,HARMONIC,LOURE,MARCATO,",
    "MARCATO-STACCATO,RIP,SMEAR,SNAP PIZZICATO,SPRECHGESANG STEM,STACCATISSIMO,STACCATO,STEM,",
    "TENUTO,TREMOLO-1~3,TRIPLE TONGUE,UP BOW;MUSICALk FINGERED :TREMOLO-1~3;",
    "MUSICALk KIEVAN :C CLEF,&H NOTE STEM DOWN,&H NOTE STEM UP,END OF PIECE,o NOTE,FLATd,",
    "HALF NOTE,QUARTER NOTE STEM DOWN,QUARTER NOTE STEM UP,RECITATIVEn,WHOLE NOTE;",
    "MUSICALk !w TWENTY-&H :NOTE,REST;MUSICALk ORNAMENT :q-10,q-11,q-1~9;MUSICALk QUARTER :NOTE,",
    "REST,T! FLAT,T! SHARP;MUSICALk REPEATED :FIGURE-1~3;MUSICALk SEMIBREVIS :],REST,WHITE;",
    "MUSICALk SEMIMINIMA :],REST,WHITE;MUSICALk TEMPUS IMPERFECTUM CUM PROLATI! :IMPERFECTA,",
    "IMPERFECTA DIMINUTION-1~3,PERFECTA;MUSICALk TEMPUS PERFECTUM CUM PROLATI! :IMPERFECTA,",
    "PERFECTA,PERFECTA DIMINUTION-1;MUSICALk x NOTEHEAD :DOWN ],DOWN WHITE,s ],s WHITE,i ],",
    "i WHITE,UP ],UP i ],UP i WHITE,UP WHITE;MUSICALk x-ROUND NOTEHEAD DOWN :],WHITE;",
    "NEGATIVE #D :=,x;NEGATIVE #D LATIN+b:A,B,C,D,E,F,G,H,I,J,K,L,M,N,O,P,Q,R,S,T,U,V,W,X,Y,Z;",
    "NEGATIVE DIAGONAL :CROSS,DIAMOND,*i TO LOWER CENTRE;NEGATIVE =D :AB,IC,PA,QUESTIONn,SA,WC;",
    "NEGATIVE =D LATIN+b:A,B,C,D,E,F,G,H,I,J,K,L,M,N,O,P,Q,R,S,T,U,V,W,X,Y,Z;",
    "NEUTRAL CHESS :BISHOP,BISHOP ROTATED NINETY DEGREES,BISHOP ROTATED |w @TY DEGREES,EQUIHOPPER,",
    "EQUIHOPPER ROTATED NINETY DEGREES,KING,KING ROTATED NINETY DEGREES,",
    "KING ROTATED |w @TY DEGREES,KNIGHT,PAWN,PAWN ROTATED NINETY DEGREES,",
    "PAWN ROTATED |w @TY DEGREES,QUEEN,QUEEN ROTATED NINETY DEGREES,QUEEN ROTATED |w @TY DEGREES,",
    "ROOK,ROOK ROTATED NINETY DEGREES,ROOK ROTATED |w @TY DEGREES;",
    "NEUTRAL CHESS KNIGHT ROTATED :FORTY-FIVE DEGREES,NINETY DEGREES,!w THIRTY-FIVE DEGREES,",
    "rw FIFTEEN DEGREES,|w @TY DEGREES,|w TWENTY-FIVE DEGREES;NEUTRAL CHESS TURNED :BISHOP,KING,",
    "KNIGHT,PAWN,QUEEN,ROOK;NEW MOON :SYMBOL,WITH FACE;NO :BICYCLES,ENTRYd,MOBILE PH!S,",
    "! UNDER &EENk,PEDESTRIANS,PIRACY,SMOKINGk;NORTH :EAST SANS-SERIFe,WEST SANS-SERIFe;",
    "NORTH EAST /:BUD,LEAF,VINE LEAF;NORTH WEST /:BUD,LEAF,VINE LEAF;NOTCHED :s SEMI#ar %S,",
    "i SEMI#ar %S;NOTE :PAD,PAGE;OLD :KEY,PERSONAL COMPUTER;OLDER :ADULT,MAN,WOMAN;",
    "ONCOMING :AUTOMOBILE,BUS,FIRE ENGINE,POLICE CAR,TAXI;OPEN :BOOK,FILE FOLDER,FOLDER,HANDSd,",
    "LOCK;OPEN MAILBOXa:LOWERED FLAG,RAISED FLAG;OPTICAL :DISC,DISC ICON;ORANGE :BOOK,HEART;",
    "PAGEa:#D TEXT,CURL;PALM :DOWN HAND,TREE,UP HAND;PARENTHESIZED LATIN+b:A,B,C,D,E,F,G,H,I,J,K,",
    "L,M,N,O,P,Q,R,S,T,U,V,W,X,Y,Z;PERSON :BOWING DEEPLY,CLIMBING,DOING CARTWHEEL,FROWNING,",
    "IN LOTUS POSITION,IN STEAMY ROOM,RAISING BOTH HANDS IN CELEBRATION;PERSONa:BLOND HAIR,CROWN,",
    "FOLDED HANDS,HEADSCARF,POUTING FACE;PIG :FACE,NOSE;PLAYING CARD :BACK,] JOKER,FOOL,RED JOKER,",
    "TRUMP-10~21,TRUMP-1~9,WHITE JOKER;PLAYING CARD ACE OF :CLUBS,DIAMONDS,HEARTS,SPADES;",
    "PLAYING CARD & OF :CLUBS,DIAMONDS,HEARTS,SPADES;PLAYING CARD FIVE OF :CLUBS,DIAMONDS,HEARTS,",
    "SPADES;PLAYING CARD _ OF :CLUBS,DIAMONDS,HEARTS,SPADES;PLAYING CARD JACK OF :CLUBS,DIAMONDS,",
    "HEARTS,SPADES;PLAYING CARD KING OF :CLUBS,DIAMONDS,HEARTS,SPADES;",
    "PLAYING CARD KNIGHT OF :CLUBS,DIAMONDS,HEARTS,SPADES;PLAYING CARD NINE OF :CLUBS,DIAMONDS,",
    "HEARTS,SPADES;PLAYING CARD QUEEN OF :CLUBS,DIAMONDS,HEARTS,SPADES;PLAYING CARD @ OF :CLUBS,",
    "DIAMONDS,HEARTS,SPADES;PLAYING CARD SIX OF :CLUBS,DIAMONDS,HEARTS,SPADES;",
    "PLAYING CARD TEN OF :CLUBS,DIAMONDS,HEARTS,SPADES;PLAYING CARD r OF :CLUBS,DIAMONDS,HEARTS,",
    "SPADES;PLAYING CARD | OF :CLUBS,DIAMONDS,HEARTS,SPADES;POLICE :CAR,CARS REVOLVING LIGHT,",
    "OFFICER;POUTING :CAT FACE,FACE;PREGNANT :MAN,PERSON,WOMAN;RACING :CAR,MOTORCYCLE;",
    "RAILWAY :CAR,TRACK;RAISED :BACK OF HAND,MCd,MDd,MRd;RAISED HANDa:FINGERS SPLAYED,",
    "PART BETWEEN MIDDLEhRING FINGERS;RED :APPLE,GIFT ENVELOPE;REGIONAL INDICATORkb:A,B,C,D,E,F,G,",
    "H,I,J,K,L,M,N,O,P,Q,R,S,T,U,V,W,X,Y,Z;REVERSE :CHECKER BOARD,LIGHT _ POINTED PINWHEEL STAR;",
    "REVERSED :HANDa*FINGER EXTENDED,RAISED HANDaFINGERS SPLAYED,THUMBS DOWNd,THUMBS UPd,",
    "VICTORY HAND;RICE :BALL,CRACKER;i :AND LOWER ! &H BLOCK,AND UPPER ! &H BLOCK,ANGER BUBBLE,",
    "FIVE &HS BLOCK,HAND TELEPH! RECEIVER,! QUARTER BLOCK,OPEN =D %,@ &HS BLOCK,SPEAKER,",
    "SPEECH BUBBLE,THIRD WHITE i /INDEX,THOUGHT BUBBLE,r &HS BLOCK,r QUARTERS BLOCK,",
    "TRIANGULAR ! QUARTER BLOCK;i HALF :FOLDER,MEDIUM SHADE,RUNNING MAN;i SPEAKERa:! SOUND WAVE,",
    "r SOUND WAVES;i$ :ARROWhUPPERhLOWER ! &H BLOCK,BACK-TILTED SHADOWED WHITEe,",
    "BOTTOM SHADED WHITEe,COMPRESSEDe,FINGER-POSTe,FRONT-TILTED SHADOWED WHITEe,HAND,HEAVYe,",
    "HEAVY COMPRESSEDe,s-SHADED WHITEe,i-SHADED WHITEe,ROCKET,SANS-SERIFe,=De,TOP SHADED WHITEe,",
    "xeHEAD,WHITEe WITHIN xeHEAD;i$ea:EQUILATERALeHEAD,LARGE xeHEAD,MEDIUM xeHEAD,NOTCHED TAIL,",
    "m EQUILATERALeHEAD,m xeHEAD;i$ x-HEADEDea:BOLD SHAFT,HEAVY SHAFT,MEDIUM SHAFT,NARROW SHAFT,",
    "VERY HEAVY SHAFT;ROLLER :COASTER,SKATE;ROUND :PUSHPIN,TARGET;ROUNDEDk FOR :CAI,FU,LU,SHOU,",
    "SHUANGXI,XI;SAFETY :PIN,VEST;SANS-SERIF HEAVY :l COMMA QUOTATIONn ORNAMENT,",
    "l TURNED COMMA QUOTATIONn ORNAMENT,LOW l COMMA QUOTATIONn ORNAMENT;SEGMENTED.:&,FIVE,_,NINE,",
    "!,@,SIX,r,|,ZERO;SHOPPING :BAGS,TROLLEY;SIDEWAYS ] :DOWN /INDEX,s /INDEX,i /INDEX,UP /INDEX;",
    "SIDEWAYS WHITE :DOWN /INDEX,s /INDEX,i /INDEX,UP /INDEX;y:AIR BLOW m ROTATIONS,",
    "AIR BLOWING OUT,AIR SUCK m ROTATIONS,AIR SUCKING IN,BREATH EXHALE,BREATH INHALE,",
    "BRUSH BETWEEN,BRUSH MULTIPLE,BRUSH SINGLE,CHEEKS NEUTRAL,CHEEKS PUFFED,CHEEKS SUCKED,COLON,",
    "COMMA,EARS,EXCITEMENT,EYE BLINK MULTIPLE,EYE BLINK SINGLE,EYE WINK,FINGER,",
    "FLOORPLANE SHOULDER HIP MOVE,FULL STOP,GRASP BETWEEN,GRASP MULTIPLE,GRASP SINGLE,HAIR,",
    "HAND-ANGLE,HAND-#,HAND-CLAW,HAND-CUP,HAND-CURLICUE,HAND-FIST,HAND-FLAT,HAND-HINGE,HAND-[,",
    "HAND-OVAL,HEAD,HEAD MOVEMENT #,HEAD RIM,LIP LOWER OVER UPPER,LIP UPPER OVER LOWER,",
    "LIPS PRESSED TOGETHER,LOCATION-FLOORPLANE SPACE,LOCATION-WALLPLANE SPACE,NECK,PARENTHESIS,",
    "RUB BETWEEN,RUB MULTIPLE,RUB SINGLE,SEMICOLON,STRIKE BETWEEN,STRIKE MULTIPLE,STRIKE SINGLE,",
    "SURFACE BETWEEN,SURFACEkS,TEETH,TORSO-FLOORPLANE TWISTING,TOUCH BETWEEN,TOUCH MULTIPLE,",
    "TOUCH SINGLE,TRAVEL-FLOORPLANE SHAKING,TRAVEL-WALLPLANE SHAKING,",
    "UPPER BODY TILTING FROM HIP JOINTS,WALLPLANE SHOULDER HIP MOVE;",
    "yDREAMY EYEBROWS :DOWN NEUTRAL,NEUTRAL DOWN,NEUTRAL UP,UP NEUTRAL;yDYNAMIC :ARROWHEAD LARGE,",
    "ARROWHEAD m,EVERY OTHER TIME,FAST,GRADUAL,RELAXED,SIMULTANEOUS,SIMULTANEOUS ALTERNATING,SLOW,",
    "TENSE;yEYEBROWS STRAIGHT :DOWN,NEUTRAL,UP;yEYEGAZE-FLOORPLANE :CURVED,STRAIGHT,",
    "STRAIGHT ALTERNATING,STRAIGHT l;yEYEGAZE-WALLPLANE :CIRCLING,CURVED,STRAIGHT,",
    "STRAIGHT ALTERNATING,STRAIGHT l;yEYELASHES :DOWN,FLUTTERING,UP;yEYES :CLOSED,HALF CLOSED,",
    "HALF OPEN,OPEN,SQUEEZED,WIDE OPEN,WIDENING MOVEMENT;",
    "yFACE DIRECTION POSITION NOSE :FORWARD TILTING,UP OR DOWN,UP OR DOWN TILTING;",
    "yFILL :MODIFIER-2~6;yFLICK :LARGE MULTIPLE,LARGE SINGLE,SEQUENTIAL,m MULTIPLE,m SINGLE;",
    "yFOREHEAD :CONTACT,NEUTRAL,WRINKLED;yHAND-ANGLE :INDEX,LITTLE INDEX,",
    "LITTLE INDEX THUMB INDEX THUMB,LITTLE INDEX THUMB INDEX THUMB OUT,LITTLE UP,*RING LITTLE,",
    "*RING LITTLE IN,*RING LITTLE OUT,RING DOWN *THUMB INDEX CROSS,RING LITTLE;",
    "yHAND-ANGLE INDEX :*LITTLE,*RING,RING LITTLE,RING LITTLE OUT,THUMB,THUMB IN,THUMB OUT;",
    "yHAND-# :INDEX,INDEX BENT,INDEX HINGE,INDEX MIDDLE,INDEX RING LITTLE,LITTLE INDEX,LITTLE UP,",
    "*RING LITTLE,*RING LITTLE BENT,*UP,RING LITTLE;yHAND-# INDEX *:CROSS LITTLE,CROSSED,LITTLE,",
    "RING,THUMB;yHAND-CLAW :_ FINGERS CONJOINED,INDEX THUMB CURVE THUMB INSIDE,",
    "*RING LITTLE CONJOINED,*RING LITTLE CONJOINED SIDE,NO THUMB,THUMB FORWARD,THUMB SIDE;",
    "yHAND-CUP :FIVE FINGERS SPREAD,FIVE FINGERS SPREAD OPEN,INDEX,INDEX RING LITTLE,INDEX THUMB,",
    "INDEX THUMB OPEN,*RING LITTLE,NO THUMB,OPEN,OPEN NO THUMB,OPEN THUMB FORWARD,OPEN THUMB SIDE,",
    "THUMB FORWARD,THUMB SIDE;yHAND-CURLICUE :INDEX RING LITTLE ON,*RING LITTLE ON,OPEN;",
    "yHAND-FIST :_ FINGERS CONJOINED BENT,HEEL,INDEX,THUMB;yHAND-FIST INDEX :BENT,",
    "BENT OVER MIDDLE,CUPPED,HINGED,HINGED LOW,HINGED *UP,HINGED *UP THUMB SIDE,MIDDLE,",
    "RAISED KNUCKLE,RING LITTLE,UP *HINGED,UP *HINGED THUMB CONJOINED,UP *HINGED THUMB SIDE;",
    "yHAND-FIST INDEX *:BENT,BENT THUMB STRAIGHT,CONJOINED,CROSS LITTLE,CROSSED,",
    "CROSSED THUMB SIDE,HINGED,HINGED SPREAD THUMB SIDE,LITTLE,RAISED KNUCKLES,RING,RING BENT,",
    "RING CONJOINED,STRAIGHT THUMB BENT,THUMB,UP SPREAD THUMB FORWARD;",
    "yHAND-FIST INDEX *CONJOINED :CUPPED,CUPPED THUMB FORWARD,HINGED,HINGED THUMB SIDE,INDEX BENT,",
    "*BENT,THUMB FORWARD,THUMB SIDE,THUMB SIDE BENT,THUMB SIDE CONJOINED;",
    "yHAND-FIST INDEX *THUMB :ANGLED,ANGLED OUT,BENT,#D,CONJOINED HINGED,CUPPED,HINGED,[ED;",
    "yHAND-FIST INDEX THUMB :ANGLED IN *UP,ANGLED OUT *UP,#,#D *UP,CUPPED *UP,CURLICUE,",
    "CURVE THUMB INSIDE,CURVE THUMB UNDER,FORWARD INDEX BENT,FORWARD INDEX STRAIGHT,[,[ED *HINGED,",
    "[ED *UP,SIDE,SIDE BOTH BENT,SIDE INDEX BENT,SIDE INDEX HINGE,SIDE THUMB BENT,",
    "SIDE THUMB CONJOINED,SIDE THUMB DIAGONAL;yHAND-FIST LITTLE :BENT,DOWN,DOWN OTHERS #D,",
    "DOWN RIPPLE CURVED,DOWN RIPPLE STRAIGHT,INDEX,INDEX THUMB,RAISED KNUCKLE,THUMB,TOUCHES THUMB,",
    "UP;yHAND-FIST *:BENT OVER INDEX,DOWN,LITTLE,RAISED KNUCKLE,RING LITTLE,UP,UP THUMB SIDE;",
    "yHAND-FIST *THUMB :ANGLED INDEX UP,ANGLED OUT INDEX CROSSED,ANGLED OUT INDEX UP,",
    "#D INDEX HINGED,#D INDEX UP,CUPPED INDEX UP,[ED INDEX UP,LITTLE;yHAND-FIST RING :DOWN,INDEX,",
    "LITTLE,MIDDLE,*CONJOINED,*RAISED KNUCKLES,RAISED KNUCKLE,THUMB,UP;",
    "yHAND-FIST THUMB :BETWEEN INDEX MIDDLE,BETWEEN INDEX *STRAIGHT,BETWEEN *RING,",
    "BETWEEN RING LITTLE,FORWARD,HEEL,OVER _ RAISED KNUCKLES,OVER | FINGERS,SIDE BENT,",
    "SIDE CONJOINED,SIDE DIAGONAL,UNDER _ FINGERS,UNDER INDEX BENT,UNDER LITTLE UP,",
    "UNDER r FINGERS,UNDER | FINGERS;yHAND-FLAT :BETWEEN PALM FACINGS,FIVE FINGERS SPREAD,",
    "_ FINGERS,HEEL,HEEL THUMB SIDE,SPLIT CENTRE,SPLIT CENTRE THUMB SIDE,",
    "SPLIT CENTRE THUMB SIDE BENT,SPLIT INDEX THUMB SIDE,SPLIT LITTLE,THUMB BENT,THUMB FORWARD,",
    "THUMB SIDE;yHAND-FLAT FIVE FINGERS SPREAD :BENT,_ BENT,HINGED,HINGED NO THUMB,",
    "HINGED THUMB SIDE,THUMB FORWARD;yHAND-FLAT _ FINGERS :BENT,CONJOINED,CONJOINED SPLIT,HINGED;",
    "yHAND-FLAT HEEL FIVE FINGERS :SPREAD,SPREAD BENT,SPREAD _ BENT;",
    "yHAND-HINGE :FIVE FINGERS SPREAD OPEN,_ FINGERS CONJOINED,INDEX,LITTLE,LITTLE INDEX,",
    "LITTLE INDEX THUMB,LITTLE THUMB,MIDDLE,*RING LITTLE,NO THUMB,OPEN,OPEN NO THUMB,",
    "OPEN THUMB FORWARD,OPEN THUMB SIDE,RING,RING DOWN INDEX THUMB [ MIDDLE,m,THUMB BETWEEN *RING,",
    "THUMB SIDE,THUMB SIDE TOUCHING INDEX;yHAND-HINGE INDEX :HINGED,*LITTLE,*RING,*RING CONJOINED,",
    "RING LITTLE,THUMB,THUMB LARGE,THUMB OPEN,THUMB SIDE,THUMB m;yHAND-[ :CURLICUE,*THUMB,",
    "RING THUMB;yHAND-[ INDEX RING LITTLE :IN,OUT,UNDER;yHAND-[ *RING LITTLE :CONJOINED,",
    "CONJOINED IN,CONJOINED OUT;yHAND-OVAL :FIVE FINGERS SPREAD,INDEX,LITTLE UP,NO THUMB,",
    "RING LITTLE,THUMB FORWARD,THUMB SIDE;yHEAD MOVEMENT-FLOORPLANE :CURVE,STRAIGHT;",
    "yHEAD MOVEMENT-WALLPLANE :CURVE,STRAIGHT,TILT;yLIMB :COMBINATION,LENGTH-1~7;yLOCATION :DEPTH,",
    "HEAD NECK,H&,LIMBS DIGITS,TORSO,WIDTH;yMOUTH :CLOSED CONTACT,CLOSED FORWARD,CLOSED NEUTRAL,",
    "CORNERS,FROWN,FROWN OPEN,FROWN WRINKLED,KISS,KISS FORWARD,KISS WRINKLED,SMILE,SMILE OPEN,",
    "SMILE WRINKLED,TENSE,TENSE FORWARD,TENSE SUCKED,WRINKLES l,WRINKLES SINGLE;yMOUTH OPEN :#,",
    "FORWARD,OVAL,OVAL WRINKLED,OVAL YAWN,RECTANGLE,RECTANGLE WRINKLED,RECTANGLE YAWN,WRINKLED;",
    "yMOVEMENT-DIAGONAL AWAY :LARGE,LARGEST,MEDIUM,m;yMOVEMENT-DIAGONAL BETWEEN :AWAY LARGE,",
    "AWAY LARGEST,AWAY MEDIUM,AWAY m,TO$ LARGE,TO$ LARGEST,TO$ MEDIUM,TO$ m;",
    "yMOVEMENT-DIAGONAL TO$ :LARGE,LARGEST,MEDIUM,m;yMOVEMENT-FLOORPLANE :BEND,BOX LARGE,",
    "BOX MEDIUM,BOX m,CHECK,CORNER LARGE,CORNER MEDIUM,CORNER m,CROSS,l ALTERNATING,",
    "l ALTERNATING WRIST FLEX,l STRAIGHT,l WRIST FLEX,FINGER #S HITTING WALL l,",
    "FINGER #S HITTING WALL SINGLE,FINGER CONTACT,HUMP m,JAW,LOOP m,PEAKS LARGE,PEAKS MEDIUM,",
    "PEAKS m,SHAKING PARALLEL,SINGLE WRIST FLEX,TRIPLE ALTERNATING MOVEMENT,",
    "TRIPLE ALTERNATING WRIST FLEX,TRIPLE STRAIGHT MOVEMENT,TRIPLE WRIST FLEX,WAVE LARGE,WAVE m,",
    "WAVE SNAKE,WRIST # HITTING WALL l,WRIST # HITTING WALL SINGLE,ZIGZAG LARGE,ZIGZAG MEDIUM,",
    "ZIGZAG m;yMOVEMENT-FLOORPLANE ARM # HITTING WALL :LARGE l,LARGE SINGLE,MEDIUM l,",
    "MEDIUM SINGLE,m l,m SINGLE;yMOVEMENT-FLOORPLANE CURVE :COMBINED,HITTING CEILING LARGE,",
    "HITTING CEILING m,HITTING FLOOR LARGE,HITTING FLOOR m,LARGE,LARGEST,MEDIUM,m;",
    "yMOVEMENT-FLOORPLANE HUMP HITTING :CEILING LARGE l,CEILING LARGE TRIPLE,CEILING m l,",
    "CEILING m TRIPLE,FLOOR LARGE l,FLOOR m l,FLOOR TRIPLE LARGE TRIPLE,FLOOR TRIPLE m TRIPLE;",
    "yMOVEMENT-FLOORPLANE LOOP HITTING :CEILING LARGE l,CEILING LARGE SINGLE,CEILING m l,",
    "CEILING m SINGLE,FLOOR LARGE l,FLOOR LARGE SINGLE,FLOOR m l,FLOOR m SINGLE;",
    "yMOVEMENT-FLOORPLANE SINGLE STRAIGHT :LARGE,LARGEST,MEDIUM,m;",
    "yMOVEMENT-FLOORPLANE WAVE HITTING :CEILING LARGE,CEILING m,FLOOR LARGE,FLOOR m;",
    "yMOVEMENT-HINGE :DOWN SEQUENTIAL,SIDE TO SIDE SCISSORS,UP DOWN ALTERNATING LARGE,",
    "UP DOWN ALTERNATING m,UP DOWN LARGE,UP DOWN m,UP SEQUENTIAL;",
    "yMOVEMENT-WALLPLANE :ARM # MEDIUM l,ARM # MEDIUM SINGLE,ARM # m l,ARM # m SINGLE,BEND LARGE,",
    "BEND MEDIUM,BEND m,BOX LARGE,BOX MEDIUM,BOX m,CHECK LARGE,CHECK MEDIUM,CHECK m,CORNER LARGE,",
    "CORNER MEDIUM,CORNER ROTATION,CORNER m,CROSS,CURVED CROSS MEDIUM,CURVED CROSS m,",
    "l ALTERNATING,l ALTERNATING WRIST FLEX,l STRAIGHT,l WRIST FLEX,FINGER #S l,FINGER #S SINGLE,",
    "FINGER CONTACT,HUMP HITTING CHEST,HUMP HITTING FRONT WALL,HUMP LARGE,HUMP MEDIUM,HUMP m,JAW,",
    "LOOP HITTING CHEST,LOOP HITTING FRONT WALL,LOOP LARGE,LOOP MEDIUM,LOOP m,LOOP m l,",
    "PEAKS LARGE,PEAKS MEDIUM,PEAKS m,SHAKING,SINGLE WRIST FLEX,TRIPLE ALTERNATING,",
    "TRIPLE ALTERNATING WRIST FLEX,TRIPLE STRAIGHT MOVEMENT,TRIPLE WRIST FLEX,WAVE HITTING CHEST,",
    "WAVE HITTING FRONT WALL,WRIST # FRONT l,WRIST # FRONT SINGLE,ZIGZAG LARGE,ZIGZAG MEDIUM,",
    "ZIGZAG m;yMOVEMENT-WALLPLANE CURVE :HALF-# LARGE,HALF-# LARGEST,HALF-# MEDIUM,HALF-# m,",
    "HITTING CHEST,HITTING FRONT WALL,QUARTER LARGE,QUARTER LARGEST,QUARTER MEDIUM,QUARTER m,",
    "THEN STRAIGHT,r-QUARTER # MEDIUM,r-QUARTER # m;yMOVEMENT-WALLPLANE SINGLE STRAIGHT :LARGE,",
    "LARGEST,MEDIUM,m;yMOVEMENT-WALLPLANE WAVE CURVE :l LARGE,l MEDIUM,l m,TRIPLE LARGE,",
    "TRIPLE MEDIUM,TRIPLE m;yMOVEMENT-WALLPLANE WAVE DIAGONAL PATH :LARGE,MEDIUM,m;yNOSE :CONTACT,",
    "NEUTRAL,WIGGLES,WRINKLES;yROTATION :MODIFIER-10~16,MODIFIER-2~9;",
    "yROTATION-FLOORPLANE :ALTERNATING,ALTERNATING HITTING CEILING,ALTERNATING HITTING FLOOR,l,",
    "l HITTING CEILING,l HITTING FLOOR,SINGLE,SINGLE HITTING CEILING,SINGLE HITTING FLOOR;",
    "yROTATION-WALLPLANE :ALTERNATE,ALTERNATING HITTING CHEST,ALTERNATING HITTING FRONT WALL,l,",
    "l HITTING CHEST,l HITTING FRONT WALL,SINGLE,SINGLE HITTING CHEST,SINGLE HITTING FRONT WALL;",
    "ySHOULDER :HIP POSITIONS,HIP SPINE,TILTING FROM WAIST;ySQUEEZE :FLICK ALTERNATING,",
    "LARGE MULTIPLE,LARGE SINGLE,SEQUENTIAL,m MULTIPLE,m SINGLE;yTEETH :BITE LIPS,MOVEMENT,",
    "ON LIPS,ON LIPS MOVEMENT,ON TONGUE,ON TONGUE MOVEMENT;yTENSE CHEEKS :HIGH,LOW,MIDDLE;",
    "yTONGUE :CENTRE INSIDE MOUTH,CENTRE STICKING OUT,INSIDE MOUTH RELAXED,LICKING LIPS,",
    "MOVES AGAINST CHEEK,STICKING OUT FAR,TIP BETWEEN LIPS,TIP TOUCHING INSIDE MOUTH;",
    "yTORSO-WALLPLANE :CURVED BEND,STRAIGHT STRETCH;",
    "yTRAVEL-FLOORPLANE ROTATION-FLOORPLANE :ALTERNATING,l,SINGLE;",
    "yTRAVEL-FLOORPLANE ROTATION-WALLPLANE :ALTERNATING,l,SINGLE;yTRAVEL-WALLPLANE ARM SPIRAL :l,",
    "SINGLE,TRIPLE;yTRAVEL-WALLPLANE ROTATION-FLOORPLANE :ALTERNATING,l,SINGLE;",
    "yTRAVEL-WALLPLANE ROTATION-WALLPLANE :ALTERNATING,l,SINGLE;SIX POINTED :PINWHEEL STAR,",
    "STARa*%;SLEEPING :ACCOMMODATION,FACE,SYMBOL;SLIGHTLY :FROWNING FACE,SMILING FACE;m :AIRPLANE,",
    "BLUE DIAMOND,ORANGE DIAMOND;SMILING CAT FACEa:HEART-SHAPED EYES,OPEN MOUTH;",
    "SMILING FACEa:HALO,HEART-SHAPED EYES,HORNS,OPEN MOUTH,SMILING EYES,",
    "SMILING EYEShHAND COVERING MOUTH,SMILING EYEShr HEARTS,SUNGLASSES,TEAR;",
    "SMILING FACEaOPEN MOUTHh:COLD SWEAT,SMILING EYES,TIGHTLY-CLOSED EYES;SOFT :ICE CREAM,",
    "SHELL FLOPPY DISK;SOLID QUILT = :ORNAMENT,ORNAMENT IN ] =;SOUTH :EAST SANS-SERIFe,",
    "WEST SANS-SERIFe;SOUTH EAST /:BUD,LEAF,VINE LEAF;SOUTH WEST /:BUD,LEAF,VINE LEAF;",
    "SPEAKERa:CANCELLATION q,! SOUND WAVE,r SOUND WAVES;SPIRAL :CALENDAR PAD,NOTE PAD,SHELL;= :DJ,",
    "HIRAGANA HOKA,TARGET;=D :CL,COOL,& K,FIVE POINT !,_ K,FREE,HC,HDR,HI-RES,HV,ID,LATIN mbD,",
    "LOSSLESS,MV,NEW,NG,OK,!w TWENTY P,PPV,SD,SECOND SCREEN,@ POINT !,SHV,SIXTY P,SOS,SS,r D,",
    "TWENTY-| POINT |,| K,UHD,UPaEXCLAMATIONn,VOD,VS,WC;=D CJK UNIFIED :IDEOGRAPH-4E00,",
    "IDEOGRAPH-4E09,IDEOGRAPH-4E2D,IDEOGRAPH-4E8C,IDEOGRAPH-4EA4,IDEOGRAPH-518D,IDEOGRAPH-521D,",
    "IDEOGRAPH-524D,IDEOGRAPH-5272,IDEOGRAPH-53CC,IDEOGRAPH-53F3,IDEOGRAPH-5408,IDEOGRAPH-5439,",
    "IDEOGRAPH-55B6,IDEOGRAPH-58F0,IDEOGRAPH-591A,IDEOGRAPH-5929,IDEOGRAPH-5B57,IDEOGRAPH-5DE6,",
    "IDEOGRAPH-5F8C,IDEOGRAPH-624B,IDEOGRAPH-6253,IDEOGRAPH-6295,IDEOGRAPH-6307,IDEOGRAPH-6355,",
    "IDEOGRAPH-6599,IDEOGRAPH-65B0,IDEOGRAPH-6620,IDEOGRAPH-6708,IDEOGRAPH-6709,IDEOGRAPH-6E80,",
    "IDEOGRAPH-6F14,IDEOGRAPH-7121,IDEOGRAPH-751F,IDEOGRAPH-7533,IDEOGRAPH-7981,IDEOGRAPH-7A7A,",
    "IDEOGRAPH-7D42,IDEOGRAPH-89E3,IDEOGRAPH-8CA9,IDEOGRAPH-8D70,IDEOGRAPH-904A,IDEOGRAPH-914D;",
    "=D KATAKANA :DE,KOKO,SA;=D LATIN+b:A,B,C,D,E,F,G,H,I,J,K,L,M,N,O,P,Q,R,S,T,U,V,W,X,Y,Z;",
    "STICK FIGURE :LEANING s,LEANING i,WITH ARMS RAISED,WITH DRESS;TAG :AMPERSAND,APOSTROPHE,",
    "ASTERISK,CIRCUMFLEX ACCENT,COLON,COMMA,COMMERCIAL AT,DOLLARd,EQUALSd,EXCLAMATIONn,FULL STOP,",
    "GRAVE ACCENT,GREATER-THANd,HYPHEN-MINUS,LESS-THANd,LOW LINE,NUMBERd,PERCENTd,PLUSd,QUESTIONn,",
    "QUOTATIONn,REVERSE SOLIDUS,SEMICOLON,SOLIDUS,SPACE,TILDE,u LINE;TAG.:&,FIVE,_,NINE,!,@,SIX,r,",
    "|,ZERO;TAG LATIN+b:A,B,C,D,E,F,G,H,I,J,K,L,M,N,O,P,Q,R,S,T,U,V,W,X,Y,Z;TAG LATIN mb:A,B,C,D,",
    "E,F,G,H,I,J,K,L,M,N,O,P,Q,R,S,T,U,V,W,X,Y,Z;TAG s :CURLYz,PARENTHESIS,=z;TAG i :CURLYz,",
    "PARENTHESIS,=z;TALLYn :FIVE,!;TELEPH! :ON TOP OF MODEM,RECEIVER,RECEIVERaPAGE;",
    "TETRAGRAM FOR :ACCUMULATION,ADVANCE,AGGRAVATION,ASCENT,BARRIER,BOLD RESOLUTION,BRANCHING OUT,",
    "CENTRE,CHANGE,CLOSED MOUTH,CLOSENESS,CLOSURE,COMPLETION,COMPLIANCE,CONSTANCY,CONTACT,",
    "CONTENTION,CONTRARIETY,DARKENING,DECISIVENESS,DEFECTIVENESS OR DISTORTION,DEPARTURE,",
    "DIFFICULTIES,DIMINISHMENT,DIMMING,DIVERGENCE,DOUBT,DUTIES,EASE,EMBELLISHMENT,ENCOUNTERS,",
    "ENDEAVOUR,ENLARGEMENT,ETERNITY,EXHAUSTION,FAILURE,FLIGHT,FOLLOWING,FOSTERING,FULL #,FULLNESS,",
    "GATHERING,GATHERING IN,GOING TO MEET,GREATNESS,GUARDEDNESS,HARDNESS,HOLDING BACK,INCREASE,",
    "INNER,JOY,KEEPING m,KINSHIP,LABOURING,LAW OR MODEL,LEGION,MASSING,MEASURE,MIRED,ON THE VERGE,",
    "OPPOSITION,PACKING,PATTERN,PENETRATION,PURITY,REACH,RELEASE,RESIDENCE,RESISTANCE,RESPONSE,",
    "RITUAL,SEVERANCE,SINKING,STOPPAGE,STOVE,STRENGTH,UNITY,VASTNESS OR WASTING,WAITING,WATCH,",
    "YOUTHFULNESS;THIN :GREEK CROSS,SALTIRE;r :BUTTON MOUSE,NE|RKED COMPUTERS,POINTED ] STAR,",
    "SPEECH BUBBLES;r RAYS :ABOVE,BELOW,s,i;THUMBS :DOWNd,UPd;TOP :HAT,WITH UP$ef;",
    "TORTOISE SHELLzED CJK UNIFIED :IDEOGRAPH-4E09,IDEOGRAPH-4E8C,IDEOGRAPH-52DD,IDEOGRAPH-5B89,",
    "IDEOGRAPH-6253,IDEOGRAPH-6557,IDEOGRAPH-672C,IDEOGRAPH-70B9,IDEOGRAPH-76D7;",
    "TRIANGULAR :FLAG ON POST,RULER;TROPICAL :DRINK,FISH;TURNED :NORTH EAST /LEAF,",
    "NORTH WEST /LEAF,OK HANDd,SOUTH EAST /LEAF,SOUTH WEST /LEAF;| :BUTTON MOUSE,HEARTS,",
    "MEN HOLDING HANDS,SPEECH BUBBLES,WOMEN HOLDING HANDS;UP-/:AIRPLANE,MILITARY AIRPLANE,RED x,",
    "m AIRPLANE,m RED x;UPPER :FIVE &HS BLOCK,s TO LOWER i FILL,s TRIANGULAR MEDIUM SHADE,",
    "! QUARTER BLOCK,@ &HS BLOCK,r &HS BLOCK,r QUARTERS BLOCK,TRIANGULAR ! QUARTER BLOCK;",
    "UPPERh:shLOWER TRIANGULAR r QUARTERS BLOCK,LOWER ! &H BLOCK,LOWER TRIANGULAR HALF BLOCK,",
    "ihLOWER TRIANGULAR r QUARTERS BLOCK;UPPER HALF :BLOCKhLOWER HALF INVERSE MEDIUM SHADE,",
    "INVERSE MEDIUM SHADEhLOWER HALF BLOCK,MEDIUM SHADE;",
    "UPPER s BLOCK DIAGONAL LOWER CENTRE TO :LOWER *i,UPPER *i,UPPER i;",
    "UPPER s BLOCK DIAGONAL LOWER s TO :LOWER *i,UPPER CENTRE,UPPER *i;",
    "UPPER s BLOCK DIAGONAL LOWER *s TO UPPER :CENTRE,*i,i;",
    "UPPER s BLOCK DIAGONAL UPPER *s TO UPPER :CENTRE,i;UPPER i :SHADOWED WHITE #,TO LOWER s FILL,",
    "TRIANGULAR MEDIUM SHADE;UPPER i BLOCK DIAGONAL LOWER *s TO LOWER :CENTRE,i;",
    "UPPER i BLOCK DIAGONAL UPPER CENTRE TO :LOWER *i,LOWER i,UPPER *i;",
    "UPPER i BLOCK DIAGONAL UPPER s TO :LOWER CENTRE,LOWER *i,UPPER *i;",
    "UPPER i BLOCK DIAGONAL UPPER *s TO LOWER :CENTRE,*i,i;UP$ :ARROWhi ! &H BLOCK,COMPRESSEDe,",
    "FINGER-POSTe,HEAVYe,HEAVY COMPRESSEDe,ROCKET,SANS-SERIFe,=De,xeHEAD,WHITEe WITHIN xeHEAD;",
    "UP$ea:EQUILATERALeHEAD,LARGE xeHEAD,MEDIUM xeHEAD,NOTCHED TAIL,m EQUILATERALeHEAD,m xeHEAD;",
    "UP$ x-HEADEDea:BOLD SHAFT,HEAVY SHAFT,MEDIUM SHAFT,NARROW SHAFT,VERY HEAVY SHAFT;",
    "VARIATION :SELECTOR-100~256,SELECTOR-17~99;u ! &H :BLOCK-2~7;VERY HEAVY :& POINTED ] STAR,",
    "& SPOKED ASTERISK,FIVE SPOKED ASTERISK,GREEK CROSS,REVERSE SOLIDUS,SALTIRE,",
    "SIX SPOKED ASTERISK,SOLIDUS,WHITE #,WHITE =;VIDEO :CAMERA,GAME;WANING :CRESCENT MOONk,",
    "GIBBOUS MOONk;WATER :BUFFALO,CLOSET,POLO,WAVE;WAVING :] FLAG,HANDd,WHITE FLAG;",
    "WAXING :CRESCENT MOONk,GIBBOUS MOONk;WEARY :CAT FACE,FACE;WHITE :# CONTAINING ] m #,FLOWER,",
    "HARD SHELL FLOPPY DISK,HEART,HEAVY SALTIREaROUNDED CORNERS,LATIN CROSS,s /BACKHAND INDEX,",
    "LOZENGE CONTAINING ] m LOZENGE,PENNANT,i /BACKHAND INDEX,= BUTTON,SUN,SUNam CLOUD,",
    "TOUCHT! TELEPH!,UP /BACKHAND INDEX,UP-/CHEVRON;WHITEe SHAFT WIDTH :!,| THIRDS;",
    "WHITE CHESS :EQUIHOPPER,EQUIHOPPER ROTATED NINETY DEGREES,KING ROTATED NINETY DEGREES,",
    "KING ROTATED |w @TY DEGREES,KNIGHT-BISHOP,KNIGHT-QUEEN,KNIGHT-ROOK,",
    "PAWN ROTATED NINETY DEGREES,PAWN ROTATED |w @TY DEGREES,QUEEN ROTATED NINETY DEGREES,",
    "QUEEN ROTATED |w @TY DEGREES,ROOK ROTATED NINETY DEGREES,ROOK ROTATED |w @TY DEGREES;",
    "WHITE CHESS BISHOP ROTATED :NINETY DEGREES,|w @TY DEGREES;",
    "WHITE CHESS KNIGHT ROTATED :FORTY-FIVE DEGREES,NINETY DEGREES,!w THIRTY-FIVE DEGREES,",
    "rw FIFTEEN DEGREES,|w @TY DEGREES,|w TWENTY-FIVE DEGREES;WHITE CHESS TURNED :BISHOP,KING,",
    "KNIGHT,PAWN,QUEEN,ROOK;WHITE DIAMOND CONTAINING ] :MEDIUM DIAMOND,VERY m DIAMOND;",
    "WHITE DOWN /:BACKHAND INDEX,s HAND INDEX;WHITE = CONTAINING ] :MEDIUM =,VERY m =;",
    "WHITE SUN BEHIND :CLOUD,CLOUDaRAIN;WIDE-HEADED DOWN$ :BARBe,HEAVY BARBe,LIGHT BARBe,",
    "MEDIUM BARBe,VERY HEAVY BARBe;WIDE-HEADED s$ :BARBe,HEAVY BARBe,LIGHT BARBe,MEDIUM BARBe,",
    "VERY HEAVY BARBe;WIDE-HEADED NORTH EAST :BARBe,HEAVY BARBe,LIGHT BARBe,MEDIUM BARBe,",
    "VERY HEAVY BARBe;WIDE-HEADED NORTH WEST :BARBe,HEAVY BARBe,LIGHT BARBe,MEDIUM BARBe,",
    "VERY HEAVY BARBe;WIDE-HEADED i$ :BARBe,HEAVY BARBe,LIGHT BARBe,MEDIUM BARBe,VERY HEAVY BARBe;",
    "WIDE-HEADED SOUTH EAST :BARBe,HEAVY BARBe,LIGHT BARBe,MEDIUM BARBe,VERY HEAVY BARBe;",
    "WIDE-HEADED SOUTH WEST :BARBe,HEAVY BARBe,LIGHT BARBe,MEDIUM BARBe,VERY HEAVY BARBe;",
    "WIDE-HEADED UP$ :BARBe,HEAVY BARBe,LIGHT BARBe,MEDIUM BARBe,VERY HEAVY BARBe;",
    "WIND :BLOWING FACE,CHIME;WOMANS :BOOTS,CLOTHES,HAT,SANDAL;XIANGQI ] :CANNON,CHARIOT,ELEPHANT,",
    "GENERAL,HORSE,MANDARIN,SOLDIER;XIANGQI RED :CANNON,CHARIOT,ELEPHANT,GENERAL,HORSE,MANDARIN,",
    "SOLDIER"]

end BlockQuery.Text.CharacterName
