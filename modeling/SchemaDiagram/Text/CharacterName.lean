import SchemaDiagram.Text.Basic

/-! # Names of characters

The names of the characters that texts in expressions are likely to call by name: Latin, Greek,
Cyrillic, Hebrew and Japanese letters, punctuation, signs, shapes and pictures, with the short names
of controls. Names are told apart without regard to capitals.

* **`isCharacterName`** — whether a character has a name. -/

namespace SchemaDiagram

/-- The names, in groups of names that start alike. A group is the common start, a colon and the
ends of its names. -/
def characterNames : String :=
  ":ABACUS,AC CURRENT,ACCOUNT OF,ACK,ACKNOWLEDGE,ACTIVATE ARABIC FORM SHAPING,
ACTIVATE SYMMETRIC SWAPPING,ACUTE ACCENT,ADDRESSED TO THE SUBJECT,ADI SHAKTI,ADMISSION TICKETS,
ADULT,AERIAL TRAMWAY,AIRPLANE,AIRPLANE ARRIVING,AIRPLANE DEPARTURE,AKTIESELSKAB,ALARM CLOCK,
ALEF SYMBOL,ALEMBIC,ALERT,ALIEN MONSTER,ALL AROUND-PROFILE,ALL EQUAL TO,ALMOST EQUAL OR EQUAL TO,
ALMOST EQUAL TO,ALTERNATE ONE-WAY LEFT WAY TRAFFIC,ALTERNATIVE KEY SYMBOL,AMBULANCE,
AMERICAN FOOTBALL,AMPERSAND,AMPHORA,ANCHOR,AND WITH DOT,ANGER SYMBOL,ANGLE,ANGRY FACE,
ANGSTROM SIGN,ANGUISHED FACE,ANKH,ANT,ANTENNA WITH BARS,APOSTROPHE,APPROACHES THE LIMIT,AQUARIUS,
ARC,ARIES,ARTICULATED LORRY,ARTIST PALETTE,ASCENDING NODE,ASSERTION,ASTERISK,ASTERISK OPERATOR,
ASTERISM,ASTONISHED FACE,ASTRONOMICAL SYMBOL FOR URANUS,ASYMPTOTICALLY EQUAL TO,ATHLETIC SHOE,
ATOM SYMBOL,AUBERGINE,AUSTRAL SIGN,AUTO RICKSHAW,AUTOMATED TELLER MACHINE,AUTOMOBILE,AVOCADO,BABY,
BACK OF ENVELOPE,BACK WITH LEFTWARDS ARROW ABOVE,BACK-TILTED SHADOWED WHITE RIGHTWARDS ARROW,
BACKSLANTED SOUTH ARROW WITH HOOKED TAIL,BACKSLANTED SOUTH ARROW WITH HORIZONTAL TAIL,BACKSPACE,
BACON,BACTRIAN CAMEL,BADGER,BADMINTON RACQUET AND SHUTTLECOCK,BAGEL,BAGGAGE CLAIM,BAGUETTE BREAD,
BALL OF YARN,BALLOON,BALLOON-SPOKED ASTERISK,BANANA,BANK,BAR CHART,BAR OF SOAP,BARBER POLE,
BASEBALL,BASKET,BASKETBALL AND HOOP,BAT,BATH,BATHTUB,BATTERY,BEACH WITH UMBRELLA,BEAR FACE,
BEARDED PERSON,BEATING HEART,BEAVER,BECAUSE,BED,BEER MUG,BEL,BELL,BELL SYMBOL,
BELL WITH CANCELLATION STROKE,BELLHOP BELL,BENT ARROW POINTING DOWNWARDS THEN NORTH EAST,BENTO BOX,
BENZENE RING,BENZENE RING WITH CIRCLE,BET SYMBOL,BETWEEN,BEVERAGE BOX,BICYCLE,BICYCLIST,BIKINI,
BILLED CAP,BILLIARDS,BIOHAZARD SIGN,BIRD,BIRTHDAY CAKE,BISON,BITCOIN SIGN,BLOSSOM,BLOWFISH,
BLUE BOOK,BLUE HEART,BOAR,BOM,BOMB,BONE,BOOK,BOOKMARK,BOOKMARK TABS,BOOKS,BOTTLE WITH POPPING CORK,
BOUQUET,BOUQUET OF FLOWERS,BOW AND ARROW,BOWL OF HYGIEIA,BOWL WITH SPOON,BOWLING,BOWTIE,
BOXING GLOVE,BOY,BOYS SYMBOL,BRAIN,BREAD,BREAST-FEEDING,BRICK,BRIDE WITH VEIL,BRIDGE AT NIGHT,
BRIEFCASE,BROCCOLI,BROOM,BROWN HEART,BS,BUBBLE TEA,BUG,BUILDING CONSTRUCTION,BULLET,
BULLET OPERATOR,BULLHORN,BULLHORN WITH SOUND WAVES,BULLSEYE,BURRITO,BUS,BUS STOP,
BUST IN SILHOUETTE,BUSTS IN SILHOUETTE,BUTTER,BUTTERFLY,BYTE ORDER MARK,CACTUS,CADA UNA,CADUCEUS,
CALENDAR,CALL ME HAND,CAMERA,CAMERA WITH FLASH,CAMPING,CAN,CANCEL,CANCELLATION X,CANCER,CANDLE,
CANDY,CANNED FOOD,CANOE,CAPRICORN,CAR SLIDING,CARE OF,CARET,CARET INSERTION POINT,CAROUSEL HORSE,
CARP STREAMER,CARRIAGE RETURN,CARROT,CASTLE,CAT,CAUTION SIGN,CEDI SIGN,CEDILLA,CELTIC CROSS,
CENT SIGN,CENTRE LINE SYMBOL,CERES,CHAINS,CHARACTER TABULATION,CHARACTER TIE,CHECK MARK,
CHEERING MEGAPHONE,CHEESE WEDGE,CHEQUERED FLAG,CHERRIES,CHERRY BLOSSOM,CHESTNUT,CHI RHO,CHICKEN,
CHILD,CHILDREN CROSSING,CHIPMUNK,CHIRON,CHOCOLATE BAR,CHOPSTICKS,CHRISTMAS TREE,CHURCH,CINEMA,
CIRCUMFLEX ACCENT,CIRCUS TENT,CITYSCAPE,CITYSCAPE AT DUSK,CLAMSHELL MOBILE PHONE,CLAPPER BOARD,
CLAPPING HANDS SIGN,CLASSICAL BUILDING,CLEAR SCREEN SYMBOL,CLINKING BEER MUGS,CLINKING GLASSES,
CLIPBOARD,CLOSE UP,CLOUD,CLOWN FACE,COAT,COCKTAIL GLASS,COCONUT,COFFIN,COLLISION SYMBOL,COLON,
COLON EQUALS,COLON SIGN,COMET,COMMA,COMMERCIAL AT,COMMERCIAL MINUS SIGN,COMPASS,COMPLEMENT,
COMPOSITION SYMBOL,COMPRESSION,CONFETTI BALL,CONFOUNDED FACE,CONFUSED FACE,CONICAL TAPER,
CONJUNCTION,CONSTRUCTION SIGN,CONSTRUCTION WORKER,CONTINUOUS UNDERLINE SYMBOL,CONTOUR INTEGRAL,
CONTROL KNOBS,CONVENIENCE STORE,COOKED RICE,COOKIE,COOKING,COPYRIGHT SIGN,CORRESPONDS TO,
COUCH AND LAMP,COUNTERBORE,COUNTERSINK,COUPLE WITH HEART,COW,COW FACE,CR,CRAB,CREDIT CARD,
CRESCENT MOON,CRICKET,CRICKET BAT AND BALL,CROCODILE,CROISSANT,CROSSED FLAGS,CROSSED SWORDS,
CROSSING LANES,CROWN,CRUZEIRO SIGN,CRYING CAT FACE,CRYING FACE,CRYSTAL BALL,CUBE ROOT,CUCUMBER,
CUP ON BLACK SQUARE,CUP WITH STRAW,CUPCAKE,CURLING STONE,CURRENCY EXCHANGE,CURRENCY SIGN,
CURRY AND RICE,CURVED STEM PARAGRAPH SIGN ORNAMENT,CUSTARD,CUSTOMS,CUT OF MEAT,CYCLONE,
CYLINDRICITY,DAGGER,DAGGER KNIFE,DALET SYMBOL,DANCER,DANGO,DARK SHADE,DARK SUNGLASSES,DASH SYMBOL,
DASHED TRIANGLE-HEADED RIGHTWARDS ARROW,DATA LINK ESCAPE,DC1,DEAF PERSON,DECIDUOUS TREE,
DECIMAL EXPONENT SYMBOL,DECIMAL SEPARATOR KEY SYMBOL,DECREASE FONT SIZE SYMBOL,DEER,DEL,DELETE,
DELIVERY TRUCK,DELTA EQUAL TO,DEPARTMENT STORE,DERELICT HOUSE BUILDING,DESCENDING NODE,DESERT,
DESERT ISLAND,DESKTOP COMPUTER,DESKTOP WINDOW,DEVICE CONTROL ONE,DIAERESIS,DIAMETER SIGN,
DIESEL LOCOMOTIVE,DIFFERENCE BETWEEN,DIMENSION ORIGIN,DIRECT CURRENT SYMBOL FORM TWO,DIRECT HIT,
DISABLED CAR,DISAPPOINTED BUT RELIEVED FACE,DISAPPOINTED FACE,DISCONTINUOUS UNDERLINE SYMBOL,
DISGUISED FACE,DITTO MARK,DIVIDES,DIVING MASK,DIVORCE SYMBOL,DIZZY FACE,DIZZY SYMBOL,DLE,
DNA DOUBLE HELIX,DO NOT LITTER SYMBOL,DOCUMENT,DODO,DOG,DOG FACE,DOLLAR SIGN,DOLPHIN,DONG SIGN,
DOOR,DOUBLED FEMALE SIGN,DOUBLED MALE SIGN,DOUGHNUT,DOVE OF PEACE,DOWN-POINTING RED TRIANGLE,
DOWN-POINTING SMALL RED TRIANGLE,DRACHMA SIGN,DRAFTING POINT RIGHTWARDS ARROW,DRAGON,DRAGON FACE,
DRESS,DRIVE SLOW SIGN,DROMEDARY CAMEL,DROOLING FACE,DROPLET,DRUM WITH DRUMSTICKS,DUCK,DUMPLING,DVD,
E-MAIL SYMBOL,EAGLE,EAR,EARTH,EAST SYRIAC CROSS,EGG,EIGHTH NOTE,EJECT SYMBOL,
ELECTRICAL INTERSECTION,ELEPHANT,ELEVATOR,ELF,EMPHASIS SYMBOL,ENQ,ENQUIRY,ENTER SYMBOL,ENVELOPE,
ENVELOPE WITH DOWNWARDS ARROW ABOVE,ENVELOPE WITH LIGHTNING,EOL,EOM,EOT,EQUIANGULAR TO,
EQUIVALENT TO,ERASE TO THE LEFT,ERASE TO THE RIGHT,ESC,ESCAPE,ESTIMATED SYMBOL,ESTIMATES,ETX,
EULER CONSTANT,EURO SIGN,EURO-CURRENCY SIGN,EUROPEAN CASTLE,EUROPEAN POST OFFICE,EVERGREEN TREE,
EXCESS,EXCLAMATION MARK,EXCLAMATION QUESTION MARK,EXPRESSIONLESS FACE,EXTRATERRESTRIAL ALIEN,EYE,
EYEGLASSES,EYES,FACSIMILE SIGN,FACTORY,FAIRY,FALAFEL,FALLEN LEAF,
FALLING DIAGONAL IN WHITE CIRCLE IN BLACK SQUARE,FAMILY,FARSI SYMBOL,FATHER CHRISTMAS,FAX ICON,
FAX MACHINE,FEARFUL FACE,FEMALE SIGN,FEMININE ORDINAL INDICATOR,FENCER,FERRIS WHEEL,FERRY,FF,
FIELD HOCKEY STICK AND BALL,FIGURE DASH,FIGURE SPACE,FILM FRAMES,FILM PROJECTOR,FIRE,FIRE ENGINE,
FIRE EXTINGUISHER,FIRECRACKER,FIREWORK SPARKLER,FIREWORKS,FISH,FISH CAKE WITH SWIRL DESIGN,FISHEYE,
FISHING POLE AND FISH,FISTED HAND SIGN,FIVE DOT PUNCTUATION,FLAG IN HOLE,FLAMINGO,FLAT SHOE,
FLATNESS,FLEUR-DE-LIS,FLEXED BICEPS,FLOPPY DISK,FLORAL HEART,FLOWER,FLOWER PLAYING CARDS,
FLOWER PUNCTUATION MARK,FLUSHED FACE,FOG,FOGGY,FOLDER,FOOT,FOOTPRINTS,FOR ALL,FORCES,
FORK AND KNIFE,FORK AND KNIFE WITH PLATE,FORM FEED,FORTUNE COOKIE,FOUNTAIN,FOUR-PER-EM SPACE,
FOURTH ROOT,FOX FACE,FRACTION NUMERATOR ONE,FRACTION SLASH,FREEZING FACE,FRENCH FRANC SIGN,
FRENCH FRIES,FRIED SHRIMP,FROG FACE,FRONT-FACING BABY CHICK,
FRONT-TILTED SHADOWED WHITE RIGHTWARDS ARROW,FROWN,FROWNING FACE WITH OPEN MOUTH,FS,FUEL PUMP,
FUNCTION APPLICATION,FUNERAL URN,FUSE,GAME DIE,GARLIC,GEAR,GEAR WITH HANDLES,GEAR WITHOUT HUB,
GEM STONE,GEMINI,GENIE,GEOMETRIC PROPORTION,GEOMETRICALLY EQUAL TO,GEOMETRICALLY EQUIVALENT TO,
GERMAN PENNY SIGN,GETA MARK,GHOST,GIMEL SYMBOL,GIRAFFE FACE,GIRL,GIRLS SYMBOL,GLASS OF MILK,
GLOBE WITH MERIDIANS,GLOVES,GLOWING STAR,GOAL NET,GOAT,GOGGLES,GOLFER,GORILLA,GRADUATION CAP,
GRAPES,GRAVE ACCENT,GRIMACING FACE,GROUP SEPARATOR,GROWING HEART,GS,GUARANI SIGN,GUARDSMAN,
GUIDE DOG,GUITAR,HAIR SPACE,HAIRCUT,HAMBURGER,HAMMER,HAMSTER FACE,
HAND WITH INDEX AND MIDDLE FINGERS CROSSED,HANDBAG,HANDBALL,HANDSHAKE,HANGUL DOUBLE DOT TONE MARK,
HANGUL SINGLE DOT TONE MARK,HAPPY PERSON RAISING ONE HAND,HARD DISK,HATCHING CHICK,HEADPHONE,
HEADSTONE GRAVEYARD SYMBOL,HEAR-NO-EVIL MONKEY,HEDGEHOG,HELICOPTER,HELM SYMBOL,
HELMET WITH WHITE CROSS,HERB,HERMITIAN CONJUGATE MATRIX,HIBISCUS,HIGH BRIGHTNESS SYMBOL,
HIGH VOLTAGE SIGN,HIGH-HEELED SHOE,HIGH-SPEED TRAIN,HIGH-SPEED TRAIN WITH BULLET NOSE,HIKING BOOT,
HINDU TEMPLE,HIPPOPOTAMUS,HISTORIC SITE,HOCHO,HOLE,HOMOTHETIC,HONEY POT,HONEYBEE,HORSE,HORSE FACE,
HORSE RACING,HOSPITAL,HOTEL,HOURGLASS,HOURGLASS WITH FLOWING SAND,HOUSE,HRYVNIA SIGN,HT,
HUGGING FACE,HUNDRED POINTS SYMBOL,HUSHED FACE,HUT,HYPHEN,HYPHEN BULLET,HYPHEN-MINUS,
HYPHENATION POINT,HYSTERESIS SYMBOL,I LOVE YOU HAND SIGN,IDENTICAL TO,IMAGE OF,
IMAGE OF OR APPROXIMATELY EQUAL TO,IMP,INBOX TRAY,INCOMING ENVELOPE,INCREASE FONT SIZE SYMBOL,
INCREMENT,INDIAN RUPEE SIGN,INFINITY,INHIBIT ARABIC FORM SHAPING,INHIBIT SYMMETRIC SWAPPING,
INSERTION SYMBOL,INTEGRAL,INTEGRAL EXTENSION,INTERCALATE,INTERLOCKED FEMALE AND MALE SIGN,
INTERROBANG,INTERSECTION,INVERSE BULLET,INVERSE WHITE CIRCLE,IZAKAYA LANTERN,JACK-O-LANTERN,JEANS,
JIGSAW PUZZLE PIECE,JOYSTICK,JUGGLING,JUNO,JUPITER,KAABA,KANGAROO,KELVIN SIGN,KEY,KEYBOARD,
KEYBOARD AND MOUSE,KEYCAP TEN,KIMONO,KIP SIGN,KISS,KISS MARK,KIWIFRUIT,KNEELING PERSON,KOALA,
L B BAR SYMBOL,LAB COAT,LABEL,LACROSSE STICK AND BALL,LADY BEETLE,LARI SIGN,
LEAF FLUTTERING IN WIND,LEAFY GREEN,LEDGER,LEFT-FACING FIST,LEFT-HANDED INTERLACED PENTAGRAM,
LEFT-SHADED WHITE RIGHTWARDS ARROW,LEG,LEMON,LEO,LEOPARD,LEVEL SLIDER,LF,LIBRA,LIGHTNING,
LIGHTNING MOOD,LIGHTNING MOOD BUBBLE,LINK SYMBOL,LINKED PAPERCLIPS,LION FACE,LIPS,LIPSTICK,
LIRA SIGN,LIVRE TOURNOIS SIGN,LIZARD,LLAMA,LOBSTER,LOCK,LOCK WITH INK PEN,LOCKING-SHIFT ONE,
LOGICAL AND,LOGICAL OR,LOLLIPOP,LOTION BOTTLE,LOUDLY CRYING FACE,LOVE HOTEL,LOVE LETTER,LOZENGE,
LOZENGE DIVIDED BY HORIZONTAL RULE,LRE,LRM,LRO,LUGGAGE,LYING FACE,MACRON,MAGE,MAGNET,MALTESE CROSS,
MAMMOTH,MAN,MANAT SIGN,MANGO,MANS SHOE,MANTELPIECE CLOCK,MANUAL WHEELCHAIR,
MAP SYMBOL FOR LIGHTHOUSE,MAPLE LEAF,MARRIAGE SYMBOL,MARTIAL ARTS UNIFORM,
MASCULINE ORDINAL INDICATOR,MASU MARK,MATE DRINK,MAXIMIZE,MEASURED ANGLE,MEASURED BY,MEAT ON BONE,
MECHANICAL ARM,MECHANICAL LEG,MELON,MEMO,MENORAH WITH NINE BRANCHES,MENS SYMBOL,MERCURY,MERPERSON,
METRO,MICRO SIGN,MICROBE,MICROPHONE,MICROSCOPE,MIDDLE DOT,MIDLINE HORIZONTAL ELLIPSIS,
MILITARY MEDAL,MILKY WAY,MILL SIGN,MINIBUS,MINIDISC,MINIMIZE,MINUS SIGN,MINUS TILDE,
MINUS-OR-PLUS SIGN,MMSP,MODELS,MODERN PENTATHLON,MONEY BAG,MONEY WITH WINGS,MONEY-MOUTH FACE,
MONKEY,MONKEY FACE,MONOGRAM FOR YANG,MONOGRAM FOR YIN,MONORAIL,MONOSTABLE SYMBOL,MOOD BUBBLE,
MOON CAKE,MOON VIEWING CEREMONY,MOSQUE,MOSQUITO,MOTHER CHRISTMAS,MOTOR BOAT,MOTOR SCOOTER,
MOTORIZED WHEELCHAIR,MOTORWAY,MOUNT FUJI,MOUNTAIN,MOUSE,MOUSE FACE,MOUTH,MOVIE CAMERA,MOYAI,
MUCH GREATER-THAN,MUCH LESS-THAN,MULTIMAP,MULTIPLE MUSICAL NOTES,MULTIPLICATION SIGN,
MULTIPLICATION X,MULTISET,MULTISET MULTIPLICATION,MULTISET UNION,MUSHROOM,NABLA,NAIL POLISH,
NAIRA SIGN,NAME BADGE,NAND,NARROW NO-BREAK SPACE,NATIONAL DIGIT SHAPES,NATIONAL PARK,
NAUSEATED FACE,NAZAR AMULET,NBSP,NECKTIE,NEGATED DOUBLE VERTICAL BAR DOUBLE RIGHT TURNSTILE,NEL,
NEPTUNE,NERD FACE,NEUTER,NEUTRAL FACE,NEWSPAPER,NEXT LINE,NEXT PAGE,NIGHT WITH STARS,NINJA,NL,
NNBSP,NO-BREAK SPACE,NOMINAL DIGIT SHAPES,NON-BREAKING HYPHEN,NON-POTABLE WATER SYMBOL,NOR,
NORDIC MARK SIGN,NORMAL SUBGROUP OF,NORMAL SUBGROUP OF OR EQUAL TO,NORTHEAST-POINTING AIRPLANE,
NOSE,NOTE,NOTE PAD,NOTE PAGE,NOTEBOOK,NOTEBOOK WITH DECORATIVE COVER,NUL,NULL,NUMERO SIGN,
NUT AND BOLT,OBJECT REPLACEMENT CHARACTER,OBSERVER EYE SYMBOL,OCTAGONAL SIGN,OCTOPUS,ODEN,
OFFICE BUILDING,OHM SIGN,OIL DRUM,OK HAND SIGN,OLD KEY,OLD PERSONAL COMPUTER,OM SYMBOL,
ON WITH EXCLAMATION MARK WITH LEFT RIGHT ARROW ABOVE,ONE BUTTON MOUSE,ONE DOT LEADER,ONION,
OPEN-CIRCUIT-OUTPUT H-TYPE SYMBOL,OPEN-CIRCUIT-OUTPUT L-TYPE SYMBOL,OPEN-OUTLINED RIGHTWARDS ARROW,
OPHIUCHUS,OPPOSITION,OPTICAL DISC,OPTICAL DISC ICON,OPTION KEY,OR WITH DOT INSIDE,ORANGE BOOK,
ORANGE HEART,ORANGUTAN,ORIGINAL OF,ORTHODOX CROSS,OTTER,OUNCE SIGN,OUTBOX TRAY,OVERHEATED FACE,
OVERLAP,OVERLINE,OWL,OX,OYSTER,PACKAGE,PAGE,PAGER,PAGES,PAGODA,PALLAS,PALM TREE,PALMS UP TOGETHER,
PANCAKES,PANDA FACE,PAPERCLIP,PARAGRAPH SEPARATOR,PARALLEL TO,PARROT,PART ALTERNATION MARK,
PARTIAL DIFFERENTIAL,PARTIALLY-RECYCLED PAPER SYMBOL,PARTY POPPER,PASSENGER SHIP,
PASSIVE-PULL-DOWN-OUTPUT SYMBOL,PASSIVE-PULL-UP-OUTPUT SYMBOL,PASSPORT CONTROL,PAW PRINTS,PDF,
PEACE SYMBOL,PEACH,PEACOCK,PEANUTS,PEAR,PEDESTRIAN,PEN OVER STAMPED ENVELOPE,PENCIL,PENGUIN,
PENSIVE FACE,PENTAGRAM,PERCENT SIGN,PERFORMING ARTS,PERMANENT PAPER SIGN,PERPENDICULAR,
PERSEVERING FACE,PERSONAL COMPUTER,PERSPECTIVE,PESETA SIGN,PESO SIGN,PETRI DISH,PICK,PICKUP TRUCK,
PIE,PIG,PIG FACE,PIG NOSE,PILCROW SIGN,PILE OF POO,PILL,PINCHED FINGERS,PINCHING HAND,
PINE DECORATION,PINEAPPLE,PINWHEEL STAR,PISCES,PISTOL,PITCHFORK,PLACE OF INTEREST SIGN,
PLACE OF WORSHIP,PLANCK CONSTANT,PLANCK CONSTANT OVER TWO PI,PLAYGROUND SLIDE,PLUS SIGN,
PLUS-MINUS SIGN,PLUTO,POCKET CALCULATOR,POODLE,POP DIRECTIONAL FORMATTING,POP DIRECTIONAL ISOLATE,
POPCORN,PORTABLE STEREO,POSITION INDICATOR,POSTBOX,POT OF FOOD,POTABLE WATER SYMBOL,POTATO,POUCH,
POULTRY LEG,POUND SIGN,POUTING CAT FACE,POUTING FACE,PRAYER BEADS,PRECEDES,PREGNANT WOMAN,
PRESCRIPTION TAKE,PRETZEL,PREVIOUS PAGE,PRIME,PRINCE,PRINCESS,PRINT SCREEN SYMBOL,PRINTER,
PRINTER ICON,PROBING CANE,PROHIBITED SIGN,PROJECTIVE,PROPERTY LINE,PROPORTION,PROPORTIONAL TO,
PUBLIC ADDRESS LOUDSPEAKER,PUNCTUATION SPACE,PURPLE HEART,PURSE,PUSHPIN,
PUT LITTER IN ITS PLACE SYMBOL,QUADRUPLE PRIME,QUARTER NOTE,QUESTION EXCLAMATION MARK,
QUESTION MARK,QUESTIONED EQUAL TO,QUINCUNX,QUOTATION MARK,RABBIT,RABBIT FACE,RACCOON,RACING CAR,
RACING MOTORCYCLE,RADICAL SYMBOL BOTTOM,RADIO,RADIO BUTTON,RADIOACTIVE SIGN,RAILWAY CAR,
RAILWAY TRACK,RAIN,RAINBOW,RAM,RAT,RATIO,RECEIPT,RECORD SEPARATOR,RECREATIONAL VEHICLE,
RECYCLED PAPER SYMBOL,RED APPLE,RED GIFT ENVELOPE,REFERENCE MARK,REGISTERED SIGN,RELIEVED FACE,
REMINDER RIBBON,REPLACEMENT CHARACTER,RESPONSE,RESTRICTED LEFT ENTRY-1,RESTRICTED LEFT ENTRY-2,
RESTROOM,RETURN SYMBOL,REVOLVING HEARTS,RHINOCEROS,RIBBON,RICE BALL,RICE CRACKER,RIFLE,
RIGHT-FACING FIST,RIGHT-HANDED INTERLACED PENTAGRAM,RIGHT-SHADED WHITE RIGHTWARDS ARROW,RING,
RINGING BELL,RLE,RLM,RLO,ROASTED SWEET POTATO,ROBOT FACE,ROCKET,ROLL OF PAPER,ROLLED-UP NEWSPAPER,
ROLLER COASTER,ROLLER SKATE,ROLLING ON THE FLOOR LAUGHING,ROOSTER,ROSE,ROSETTE,ROUND PUSHPIN,
ROWBOAT,RS,RUBLE SIGN,RUGBY FOOTBALL,RUNNER,RUNNING SHIRT WITH SASH,RUPEE SIGN,SAFETY PIN,
SAFETY VEST,SAGITTARIUS,SAILBOAT,SAKE BOTTLE AND CUP,SALT SHAKER,SALTIRE,SANDWICH,SARI,SATELLITE,
SATELLITE ANTENNA,SATURN,SAUROPOD,SAXOPHONE,SCALES,SCARF,SCHOOL,SCHOOL SATCHEL,SCOOTER,SCORPION,
SCORPIUS,SCREEN,SCROLL,SCRUPLE,SEAL,SEAT,SECOND PLACE MEDAL,SECTION SIGN,SECTOR,SEE-NO-EVIL MONKEY,
SEEDLING,SEGMENT,SELFIE,SEMICOLON,SEMISEXTILE,SERIOUS FACE WITH SYMBOLS COVERING MOUTH,
SERVICE MARK,SESQUIQUADRATE,SET MINUS,SEXTILE,SHALLOW PAN OF FOOD,SHAMROCK,SHARK,SHAVED ICE,SHEEP,
SHIELD,SHIFT IN,SHIFT OUT,SHINTO SHRINE,SHIP,SHOCKED FACE WITH EXPLODING HEAD,SHOOTING STAR,
SHOPPING BAGS,SHOPPING TROLLEY,SHORTCAKE,SHOULDERED OPEN BOX,SHOWER,SHRIMP,SHRUG,SHY,SI,
SIGN OF THE HORNS,SILHOUETTE OF JAPAN,SINE WAVE,SIX-PER-EM SPACE,SIXTEEN POINTED ASTERISK,
SKATEBOARD,SKI AND SKI BOOT,SKIER,SKULL,SKULL AND CROSSBONES,SKUNK,
SLANTED NORTH ARROW WITH HOOKED HEAD,SLANTED NORTH ARROW WITH HORIZONTAL TAIL,SLED,SLEEPY FACE,
SLEUTH OR SPY,SLICE OF PIZZA,SLIGHTLY FROWNING FACE,SLIGHTLY SMILING FACE,SLOPE,SLOT MACHINE,SLOTH,
SMILE,SMIRKING FACE,SMOKING SYMBOL,SNAIL,SNAKE,SNEEZING FACE,SNOW CAPPED MOUNTAIN,SNOWBOARDER,
SNOWFLAKE,SNOWMAN,SNOWMAN WITHOUT SNOW,SO,SOCCER BALL,SOCKS,SOFTBALL,SOFTWARE-FUNCTION SYMBOL,SOH,
SOLIDUS,SOM SIGN,SOON WITH RIGHTWARDS ARROW ABOVE,SOUND RECORDING COPYRIGHT,SP,SPACE,SPAGHETTI,
SPARKLE,SPARKLES,SPARKLING HEART,SPEAK-NO-EVIL MONKEY,SPEAKER,SPEAKING HEAD IN SILHOUETTE,
SPEECH BALLOON,SPEEDBOAT,SPESMILO SIGN,SPHERICAL ANGLE,SPIDER,SPIDER WEB,SPLASHING SWEAT SYMBOL,
SPONGE,SPOOL OF THREAD,SPOON,SPORTS MEDAL,SPOUTING WHALE,SQUAT BLACK RIGHTWARDS ARROW,SQUID,
STADIUM,STAFF OF AESCULAPIUS,STAFF OF HERMES,STAMPED ENVELOPE,STANDING PERSON,START OF HEADING,
START OF TEXT,STATION,STATUE OF LIBERTY,STEAM LOCOMOTIVE,STEAMING BOWL,STOCK CHART,STOPWATCH,
STRAIGHT RULER,STRAIGHTNESS,STRAWBERRY,STRESS OUTLINED WHITE STAR,STRICTLY EQUIVALENT TO,
STUDIO MICROPHONE,STUFFED FLATBREAD,STUPA,STX,SUB,SUBSTITUTE,SUCCEEDS,SUMMATION BOTTOM,
SUMMATION TOP,SUN,SUN BEHIND CLOUD,SUN WITH FACE,SUNFLOWER,SUNRISE,SUNRISE OVER MOUNTAINS,
SUNSET OVER BUILDINGS,SUPERHERO,SUPERVILLAIN,SURFACE INTEGRAL,SURFER,SUSHI,SUSPENSION RAILWAY,SWAN,
SWIMMER,SWUNG DASH,SYMBOL FOR MARKS CHAPTER,SYMBOL FOR SAMARITAN SOURCE,SYMMETRY,SYNAGOGUE,SYRINGE,
T-REX,T-SHIRT,TAB,TABLE TENNIS PADDLE AND BALL,TACO,TAKEOUT BOX,TANABATA TREE,TANGERINE,
TAPE CARTRIDGE,TAPE DRIVE,TAURUS,TAXI,TEACUP WITHOUT HANDLE,TEAR-OFF CALENDAR,
TEARDROP-BARBED RIGHTWARDS ARROW,TEARDROP-SPOKED ASTERISK,TEDDY BEAR,TELESCOPE,TELEVISION,
TENGE SIGN,TENNIS RACQUET AND BALL,TENT,TEST TUBE,THERE DOES NOT EXIST,THERE EXISTS,THEREFORE,
THERMOMETER,THIN SPACE,THINKING FACE,THIRD PLACE MEDAL,THOUGHT BALLOON,
THREE-D BOTTOM-LIGHTED RIGHTWARDS ARROWHEAD,THREE-D TOP-LIGHTED RIGHTWARDS ARROWHEAD,
THREE-PER-EM SPACE,THUMBS DOWN SIGN,THUMBS UP SIGN,THUNDER CLOUD AND RAIN,THUNDERSTORM,TICKET,
TIGER,TIGER FACE,TIGHT TRIFOLIATE SNOWFLAKE,TILDE,TILDE OPERATOR,
TILDE OPERATOR ABOVE LEFTWARDS ARROW,TIMER CLOCK,TIRED FACE,TIRONIAN SIGN ET,TOILET,TOKYO TOWER,
TOMATO,TONGUE,TOOLBOX,TOOTH,TOTAL RUNOUT,TRACKBALL,TRACTOR,TRADE MARK SIGN,TRAIN,TRAM,TRAM CAR,
TRIANGLE WITH ROUNDED CORNERS,TRIANGLE-HEADED RIGHTWARDS ARROW,TRICOLON,TRIDENT EMBLEM,TROLL,
TROLLEYBUS,TROPHY,TROPICAL DRINK,TROPICAL FISH,TRUE,TRUMPET,TUGRIK SIGN,TULIP,TUMBLER GLASS,TURKEY,
TURKISH LIRA SIGN,TURTLE,TWELVE POINTED BLACK STAR,TWISTED RIGHTWARDS ARROWS,UMBRELLA,
UMBRELLA ON GROUND,UMBRELLA WITH RAIN DROPS,UNAMUSED FACE,UNDERTIE,UNDO SYMBOL,UNICORN FACE,UNION,
UNIT SEPARATOR,UNIVERSAL RECYCLING SYMBOL,UNMARRIED PARTNERSHIP SYMBOL,UPSIDE-DOWN FACE,URANUS,US,
VAMPIRE,VERSICLE,VERY MUCH GREATER-THAN,VERY MUCH LESS-THAN,VESTA,VIBRATION MODE,VICTORY HAND,
VIDEO CAMERA,VIDEO GAME,VIDEOCASSETTE,VIEWDATA SQUARE,VIOLIN,VIRGO,VOLCANO,VOLLEYBALL,
VOLUME INTEGRAL,VT,WAFFLE,WANING CRESCENT MOON SYMBOL,WANING GIBBOUS MOON SYMBOL,WARNING SIGN,
WASTEBASKET,WATCH,WATERMELON,WAVE ARROW POINTING DIRECTLY LEFT,WAVE DASH,WAVY DASH,WAVY LINE,
WAXING CRESCENT MOON SYMBOL,WAXING GIBBOUS MOON SYMBOL,WEARY CAT FACE,WEARY FACE,WEDDING,
WEDGE-TAILED RIGHTWARDS ARROW,WEIERSTRASS ELLIPTIC FUNCTION,WEIGHT LIFTER,WEST SYRIAC CROSS,WHALE,
WHEEL,WHEEL OF DHARMA,WHEELCHAIR SYMBOL,WHITE-FEATHERED RIGHTWARDS ARROW,WILTED FLOWER,
WIND BLOWING FACE,WIND CHIME,WINE GLASS,WINKING FACE,WIRED KEYBOARD,WJ,WOLF FACE,WOMAN,
WOMAN WITH BUNNY EARS,WOMENS SYMBOL,WON SIGN,WORD JOINER,WORLD MAP,WORRIED FACE,WRAPPED PRESENT,
WREATH PRODUCT,WRENCH,WRESTLERS,WRITING HAND,X IN A RECTANGLE BOX,XOR,YAWNING FACE,YELLOW HEART,
YEN SIGN,YIN YANG,Z NOTATION BAG MEMBERSHIP,ZEBRA FACE,ZIPPER-MOUTH FACE,ZOMBIE,ZWJ,ZWNBSP,ZWNJ,
ZWSP;ANTICLOCKWISE:CONTOUR INTEGRAL,DOWNWARDS AND UPWARDS OPEN CIRCLE ARROWS,GAPPED CIRCLE ARROW,
OPEN CIRCLE ARROW,TOP SEMICIRCLE ARROW;APL FUNCTIONAL SYMBOL:ALPHA,ALPHA UNDERBAR,BACKSLASH BAR,
COMMA BAR,DEL DIAERESIS,DEL STILE,DEL TILDE,DELTA STILE,DELTA UNDERBAR,DIAMOND UNDERBAR,
DOWN CARET TILDE,DOWN SHOE STILE,DOWN TACK JOT,DOWN TACK UNDERBAR,DOWNWARDS VANE,EPSILON UNDERBAR,
GREATER-THAN DIAERESIS,I-BEAM,IOTA,IOTA UNDERBAR,JOT DIAERESIS,JOT UNDERBAR,LEFT SHOE STILE,
LEFTWARDS VANE,OMEGA,OMEGA UNDERBAR,QUAD,QUOTE QUAD,QUOTE UNDERBAR,RHO,RIGHTWARDS VANE,
SEMICOLON UNDERBAR,SLASH BAR,SQUISH QUAD,STAR DIAERESIS,STILE TILDE,TILDE DIAERESIS,UP CARET TILDE,
UP SHOE JOT,UP TACK DIAERESIS,UP TACK JOT,UP TACK OVERBAR,UPWARDS VANE,ZILDE;
APL FUNCTIONAL SYMBOL CIRCLE:BACKSLASH,DIAERESIS,JOT,STAR,STILE,UNDERBAR;
APL FUNCTIONAL SYMBOL QUAD:BACKSLASH,CIRCLE,COLON,DEL,DELTA,DIAMOND,DIVIDE,DOWN CARET,
DOWNWARDS ARROW,EQUAL,GREATER-THAN,JOT,LEFTWARDS ARROW,LESS-THAN,NOT EQUAL,QUESTION,
RIGHTWARDS ARROW,SLASH,UP CARET,UPWARDS ARROW;APPROXIMATELY:BUT NOT ACTUALLY EQUAL TO,EQUAL TO,
EQUAL TO OR THE IMAGE OF;BABY:ANGEL,BOTTLE,CHICK,SYMBOL;BALLOT:BOLD SCRIPT X,BOX,SCRIPT X,X;
BALLOT BOX WITH:BALLOT,BOLD CHECK,BOLD SCRIPT X,CHECK,SCRIPT X,X;BANKNOTE WITH:DOLLAR SIGN,
EURO SIGN,POUND SIGN,YEN SIGN;BEAMED:ASCENDING MUSICAL NOTES,DESCENDING MUSICAL NOTES,EIGHTH NOTES,
SIXTEENTH NOTES;BLACK:CENTRE WHITE STAR,CIRCLE,CLUB SUIT,CROSS ON SHIELD,DIAMOND,
DIAMOND MINUS WHITE X,DIAMOND SUIT,DOWN POINTING BACKHAND INDEX,DRAUGHTS KING,DRAUGHTS MAN,DROPLET,
FLAG,FLORETTE,FOLDER,FOUR POINTED STAR,HARD SHELL FLOPPY DISK,HEART,HEART SUIT,HEXAGON,
HORIZONTAL ELLIPSE,LARGE CIRCLE,LARGE SQUARE,LEFTWARDS BULLET,LOWER LEFT TRIANGLE,
LOWER RIGHT TRIANGLE,MOON LILITH,NIB,PARALLELOGRAM,PENNANT,PENTAGON,PUSHPIN,QUESTION MARK ORNAMENT,
RECTANGLE,RIGHT POINTING BACKHAND INDEX,RIGHT POINTING INDEX,ROSETTE,SAFETY SCISSORS,SCISSORS,
SHOGI PIECE,SKULL AND CROSSBONES,SMILING FACE,SNOWMAN,SPADE SUIT,SQUARE,SQUARE BUTTON,
SQUARE FOR STOP,STAR,SUN WITH RAYS,TELEPHONE,TOUCHTONE TELEPHONE,TRUCK,TWO-WAY LEFT WAY TRAFFIC,
UNIVERSAL RECYCLING SYMBOL,UP POINTING BACKHAND INDEX,UPPER LEFT TRIANGLE,UPPER RIGHT TRIANGLE,
VERTICAL ELLIPSE,VERTICAL RECTANGLE,VERY SMALL SQUARE;BLACK CHESS:BISHOP,KING,KNIGHT,PAWN,QUEEN,
ROOK;BLACK CIRCLE:FOR RECORD,WITH TWO WHITE DOTS,WITH WHITE DOT RIGHT;
BLACK DOWN-POINTING:DOUBLE TRIANGLE,SMALL TRIANGLE,TRIANGLE;BLACK LEFT:LANE MERGE,
POINTING BACKHAND INDEX,POINTING INDEX;BLACK LEFT-POINTING:DOUBLE TRIANGLE,
DOUBLE TRIANGLE WITH VERTICAL BAR,POINTER,SMALL TRIANGLE,TRIANGLE;BLACK MEDIUM:DIAMOND,
DOWN-POINTING TRIANGLE,LEFT-POINTING TRIANGLE,LOZENGE,RIGHT-POINTING TRIANGLE,SMALL SQUARE,SQUARE,
UP-POINTING TRIANGLE;BLACK RIGHT-POINTING:DOUBLE TRIANGLE,DOUBLE TRIANGLE WITH VERTICAL BAR,
PENTAGON,POINTER,SMALL TRIANGLE,TRIANGLE,TRIANGLE WITH DOUBLE VERTICAL BAR;BLACK RIGHTWARDS:ARROW,
ARROWHEAD,BULLET;BLACK SMALL:DIAMOND,LOZENGE,SQUARE,STAR;BLACK UP-POINTING:DOUBLE TRIANGLE,
SMALL TRIANGLE,TRIANGLE;BLACK-FEATHERED:NORTH EAST ARROW,RIGHTWARDS ARROW,SOUTH EAST ARROW;
BLACK-LETTER CAPITAL:C,H,I,R,Z;BOTTOM:CURLY BRACKET,HALF INTEGRAL,LEFT CORNER,LEFT CROP,
PARENTHESIS,RIGHT CORNER,RIGHT CROP,SQUARE BRACKET,SQUARE BRACKET OVER TOP SQUARE BRACKET,
TORTOISE SHELL BRACKET;BOX DRAWINGS DOUBLE:DOWN AND HORIZONTAL,DOWN AND LEFT,DOWN AND RIGHT,
HORIZONTAL,UP AND HORIZONTAL,UP AND LEFT,UP AND RIGHT,VERTICAL;
BOX DRAWINGS DOUBLE VERTICAL:AND HORIZONTAL,AND LEFT,AND RIGHT;
BOX DRAWINGS DOWN:DOUBLE AND HORIZONTAL SINGLE,DOUBLE AND LEFT SINGLE,DOUBLE AND RIGHT SINGLE,
SINGLE AND HORIZONTAL DOUBLE,SINGLE AND LEFT DOUBLE,SINGLE AND RIGHT DOUBLE;
BOX DRAWINGS DOWN HEAVY:AND HORIZONTAL LIGHT,AND LEFT LIGHT,AND LEFT UP LIGHT,AND RIGHT LIGHT,
AND RIGHT UP LIGHT,AND UP HORIZONTAL LIGHT;BOX DRAWINGS DOWN LIGHT:AND HORIZONTAL HEAVY,
AND LEFT HEAVY,AND LEFT UP HEAVY,AND RIGHT HEAVY,AND RIGHT UP HEAVY,AND UP HORIZONTAL HEAVY;
BOX DRAWINGS HEAVY:DOUBLE DASH HORIZONTAL,DOUBLE DASH VERTICAL,DOWN,DOWN AND HORIZONTAL,
DOWN AND LEFT,DOWN AND RIGHT,HORIZONTAL,LEFT,LEFT AND LIGHT RIGHT,QUADRUPLE DASH HORIZONTAL,
QUADRUPLE DASH VERTICAL,RIGHT,TRIPLE DASH HORIZONTAL,TRIPLE DASH VERTICAL,UP,UP AND HORIZONTAL,
UP AND LEFT,UP AND LIGHT DOWN,UP AND RIGHT,VERTICAL;BOX DRAWINGS HEAVY VERTICAL:AND HORIZONTAL,
AND LEFT,AND RIGHT;BOX DRAWINGS LEFT:DOWN HEAVY AND RIGHT UP LIGHT,UP HEAVY AND RIGHT DOWN LIGHT;
BOX DRAWINGS LEFT HEAVY:AND RIGHT DOWN LIGHT,AND RIGHT UP LIGHT,AND RIGHT VERTICAL LIGHT;
BOX DRAWINGS LEFT LIGHT:AND RIGHT DOWN HEAVY,AND RIGHT UP HEAVY,AND RIGHT VERTICAL HEAVY;
BOX DRAWINGS LIGHT:ARC DOWN AND LEFT,ARC DOWN AND RIGHT,ARC UP AND LEFT,ARC UP AND RIGHT,
DOUBLE DASH HORIZONTAL,DOUBLE DASH VERTICAL,DOWN,DOWN AND HORIZONTAL,DOWN AND LEFT,DOWN AND RIGHT,
HORIZONTAL,LEFT,LEFT AND HEAVY RIGHT,QUADRUPLE DASH HORIZONTAL,QUADRUPLE DASH VERTICAL,RIGHT,
TRIPLE DASH HORIZONTAL,TRIPLE DASH VERTICAL,UP,UP AND HEAVY DOWN,UP AND HORIZONTAL,UP AND LEFT,
UP AND RIGHT,VERTICAL;BOX DRAWINGS LIGHT DIAGONAL:CROSS,UPPER LEFT TO LOWER RIGHT,
UPPER RIGHT TO LOWER LEFT;BOX DRAWINGS LIGHT VERTICAL:AND HORIZONTAL,AND LEFT,AND RIGHT;
BOX DRAWINGS RIGHT:DOWN HEAVY AND LEFT UP LIGHT,UP HEAVY AND LEFT DOWN LIGHT;
BOX DRAWINGS RIGHT HEAVY:AND LEFT DOWN LIGHT,AND LEFT UP LIGHT,AND LEFT VERTICAL LIGHT;
BOX DRAWINGS RIGHT LIGHT:AND LEFT DOWN HEAVY,AND LEFT UP HEAVY,AND LEFT VERTICAL HEAVY;
BOX DRAWINGS UP DOUBLE:AND HORIZONTAL SINGLE,AND LEFT SINGLE,AND RIGHT SINGLE;
BOX DRAWINGS UP HEAVY:AND DOWN HORIZONTAL LIGHT,AND HORIZONTAL LIGHT,AND LEFT DOWN LIGHT,
AND LEFT LIGHT,AND RIGHT DOWN LIGHT,AND RIGHT LIGHT;
BOX DRAWINGS UP LIGHT:AND DOWN HORIZONTAL HEAVY,AND HORIZONTAL HEAVY,AND LEFT DOWN HEAVY,
AND LEFT HEAVY,AND RIGHT DOWN HEAVY,AND RIGHT HEAVY;BOX DRAWINGS UP SINGLE:AND HORIZONTAL DOUBLE,
AND LEFT DOUBLE,AND RIGHT DOUBLE;BOX DRAWINGS VERTICAL:DOUBLE AND HORIZONTAL SINGLE,
DOUBLE AND LEFT SINGLE,DOUBLE AND RIGHT SINGLE,HEAVY AND HORIZONTAL LIGHT,HEAVY AND LEFT LIGHT,
HEAVY AND RIGHT LIGHT,LIGHT AND HORIZONTAL HEAVY,LIGHT AND LEFT HEAVY,LIGHT AND RIGHT HEAVY,
SINGLE AND HORIZONTAL DOUBLE,SINGLE AND LEFT DOUBLE,SINGLE AND RIGHT DOUBLE;BROKEN:BAR,
CIRCLE WITH NORTHWEST ARROW,HEART;CARD:FILE BOX,INDEX,INDEX DIVIDERS;CAT:FACE,
FACE WITH TEARS OF JOY,FACE WITH WRY SMILE;CHART WITH:DOWNWARDS TREND,UPWARDS TREND,
UPWARDS TREND AND YEN SIGN;CIRCLE WITH:ALL BUT UPPER LEFT QUADRANT BLACK,LEFT HALF BLACK,
LOWER HALF BLACK,RIGHT HALF BLACK,UPPER HALF BLACK,UPPER RIGHT QUADRANT BLACK,VERTICAL FILL;
CIRCLED:ASTERISK OPERATOR,CROSSING LANES,DASH,DIVISION SLASH,DOT OPERATOR,EQUALS,
HEAVY WHITE RIGHTWARDS ARROW,HORIZONTAL BAR WITH NOTCH,INFORMATION SOURCE,MINUS,
OPEN CENTRE EIGHT POINTED STAR,PLUS,POSTAL MARK,RING OPERATOR,TIMES,TRIANGLE DOWN,WHITE STAR;
CIRCLED CROSS:FORMEE,FORMEE WITH FOUR DOTS,FORMEE WITH TWO DOTS,POMMEE;CIRCLED DIGIT:EIGHT,FIVE,
FOUR,NINE,ONE,SEVEN,SIX,THREE,TWO,ZERO;CIRCLED LATIN CAPITAL LETTER:A,B,C,D,E,F,G,H,I,J,K,L,M,N,O,
P,Q,R,S,T,U,V,W,X,Y,Z;CIRCLED LATIN SMALL LETTER:A,B,C,D,E,F,G,H,I,J,K,L,M,N,O,P,Q,R,S,T,U,V,W,X,Y,
Z;CIRCLED NUMBER:EIGHTEEN,ELEVEN,FIFTEEN,FOURTEEN,NINETEEN,SEVENTEEN,SIXTEEN,TEN,THIRTEEN,TWELVE,
TWENTY;CLOCK FACE:EIGHT OCLOCK,EIGHT-THIRTY,ELEVEN OCLOCK,ELEVEN-THIRTY,FIVE OCLOCK,FIVE-THIRTY,
FOUR OCLOCK,FOUR-THIRTY,NINE OCLOCK,NINE-THIRTY,ONE OCLOCK,ONE-THIRTY,SEVEN OCLOCK,SEVEN-THIRTY,
SIX OCLOCK,SIX-THIRTY,TEN OCLOCK,TEN-THIRTY,THREE OCLOCK,THREE-THIRTY,TWELVE OCLOCK,TWELVE-THIRTY,
TWO OCLOCK,TWO-THIRTY;CLOCKWISE:CONTOUR INTEGRAL,DOWNWARDS AND UPWARDS OPEN CIRCLE ARROWS,
GAPPED CIRCLE ARROW,INTEGRAL,OPEN CIRCLE ARROW,RIGHT AND LEFT SEMICIRCLE ARROWS,
RIGHTWARDS AND LEFTWARDS OPEN CIRCLE ARROWS,
RIGHTWARDS AND LEFTWARDS OPEN CIRCLE ARROWS WITH CIRCLED ONE OVERLAY,TOP SEMICIRCLE ARROW;
CLOSED:BOOK,LOCK WITH KEY,MAILBOX WITH LOWERED FLAG,MAILBOX WITH RAISED FLAG,UMBRELLA;
CLOUD WITH:LIGHTNING,RAIN,SNOW,TORNADO;COMBINING:KATAKANA-HIRAGANA SEMI-VOICED SOUND MARK,
KATAKANA-HIRAGANA VOICED SOUND MARK;COMBINING CYRILLIC:DASIA PNEUMATA,HUNDRED THOUSANDS SIGN,
MILLIONS SIGN,PALATALIZATION,POKRYTIE,PSILI PNEUMATA,TITLO;CONTAINS AS:MEMBER,NORMAL SUBGROUP,
NORMAL SUBGROUP OR EQUAL TO;CONTAINS WITH:LONG HORIZONTAL STROKE,OVERBAR,
VERTICAL BAR AT END OF HORIZONTAL STROKE;COPTIC CAPITAL LETTER:DEI,FEI,GANGIA,HORI,KHEI,SHEI,SHIMA;
COPTIC SMALL LETTER:DEI,FEI,GANGIA,HORI,KHEI,SHEI,SHIMA;CROSS:MARK,OF JERUSALEM,OF LORRAINE,POMMEE,
POMMEE WITH HALF-CIRCLE BELOW;CURLY:BRACKET EXTENSION,LOGICAL AND,LOGICAL OR,LOOP;
CYRILLIC:LETTER PALOCHKA,THOUSANDS SIGN;CYRILLIC CAPITAL LETTER:A,A WITH BREVE,A WITH DIAERESIS,
BARRED O,BARRED O WITH DIAERESIS,BASHKIR KA,BE,BIG YUS,BYELORUSSIAN-UKRAINIAN I,CHE,
CHE WITH DESCENDER,CHE WITH DIAERESIS,CHE WITH VERTICAL STROKE,DE,DJE,DZE,DZHE,E,E WITH DIAERESIS,
EF,EL,EL WITH TAIL,EM,EM WITH TAIL,EN,EN WITH DESCENDER,EN WITH HOOK,EN WITH TAIL,ER,ER WITH TICK,
ES,ES WITH DESCENDER,FITA,GHE,GHE WITH DESCENDER,GHE WITH MIDDLE HOOK,GHE WITH STROKE,
GHE WITH STROKE AND HOOK,GHE WITH UPTURN,GJE,HA,HA WITH DESCENDER,HA WITH HOOK,HA WITH STROKE,
HARD SIGN,I,I WITH DIAERESIS,I WITH GRAVE,I WITH MACRON,IE,IE WITH BREVE,IE WITH GRAVE,IO,
IOTIFIED BIG YUS,IOTIFIED E,IOTIFIED LITTLE YUS,IZHITSA,IZHITSA WITH DOUBLE GRAVE ACCENT,JE,KA,
KA WITH DESCENDER,KA WITH HOOK,KA WITH STROKE,KA WITH VERTICAL STROKE,KHAKASSIAN CHE,KJE,KOPPA,KSI,
LITTLE YUS,LJE,NJE,O,O WITH DIAERESIS,OMEGA,OMEGA WITH TITLO,OT,PE,PE WITH MIDDLE HOOK,PSI,
ROUND OMEGA,SCHWA,SCHWA WITH DIAERESIS,SEMISOFT SIGN,SHA,SHCHA,SHHA,SHORT I,SHORT I WITH TAIL,
SHORT U,SOFT SIGN,STRAIGHT U,STRAIGHT U WITH STROKE,TE,TE WITH DESCENDER,TSE,TSHE,U,
U WITH DIAERESIS,U WITH DOUBLE ACUTE,U WITH MACRON,UK,UKRAINIAN IE,VE,YA,YAT,YERU,
YERU WITH DIAERESIS,YI,YU,ZE,ZE WITH DESCENDER,ZE WITH DIAERESIS,ZHE,ZHE WITH BREVE,
ZHE WITH DESCENDER,ZHE WITH DIAERESIS;CYRILLIC CAPITAL LETTER ABKHASIAN:CHE,CHE WITH DESCENDER,DZE,
HA;CYRILLIC CAPITAL LIGATURE:A IE,EN GHE,TE TSE;CYRILLIC SMALL LETTER:A,A WITH BREVE,
A WITH DIAERESIS,BARRED O,BARRED O WITH DIAERESIS,BASHKIR KA,BE,BIG YUS,BYELORUSSIAN-UKRAINIAN I,
CHE,CHE WITH DESCENDER,CHE WITH DIAERESIS,CHE WITH VERTICAL STROKE,DE,DJE,DZE,DZHE,E,
E WITH DIAERESIS,EF,EL,EL WITH TAIL,EM,EM WITH TAIL,EN,EN WITH DESCENDER,EN WITH HOOK,EN WITH TAIL,
ER,ER WITH TICK,ES,ES WITH DESCENDER,FITA,GHE,GHE WITH DESCENDER,GHE WITH MIDDLE HOOK,
GHE WITH STROKE,GHE WITH STROKE AND HOOK,GHE WITH UPTURN,GJE,HA,HA WITH DESCENDER,HA WITH HOOK,
HA WITH STROKE,HARD SIGN,I,I WITH DIAERESIS,I WITH GRAVE,I WITH MACRON,IE,IE WITH BREVE,
IE WITH GRAVE,IO,IOTIFIED BIG YUS,IOTIFIED E,IOTIFIED LITTLE YUS,IZHITSA,
IZHITSA WITH DOUBLE GRAVE ACCENT,JE,KA,KA WITH DESCENDER,KA WITH HOOK,KA WITH STROKE,
KA WITH VERTICAL STROKE,KHAKASSIAN CHE,KJE,KOPPA,KSI,LITTLE YUS,LJE,NJE,O,O WITH DIAERESIS,OMEGA,
OMEGA WITH TITLO,OT,PALOCHKA,PE,PE WITH MIDDLE HOOK,PSI,ROUND OMEGA,SCHWA,SCHWA WITH DIAERESIS,
SEMISOFT SIGN,SHA,SHCHA,SHHA,SHORT I,SHORT I WITH TAIL,SHORT U,SOFT SIGN,STRAIGHT U,
STRAIGHT U WITH STROKE,TE,TE WITH DESCENDER,TSE,TSHE,U,U WITH DIAERESIS,U WITH DOUBLE ACUTE,
U WITH MACRON,UK,UKRAINIAN IE,VE,YA,YAT,YERU,YERU WITH DIAERESIS,YI,YU,ZE,ZE WITH DESCENDER,
ZE WITH DIAERESIS,ZHE,ZHE WITH BREVE,ZHE WITH DESCENDER,ZHE WITH DIAERESIS;
CYRILLIC SMALL LETTER ABKHASIAN:CHE,CHE WITH DESCENDER,DZE,HA;CYRILLIC SMALL LIGATURE:A IE,EN GHE,
TE TSE;DEGREE:CELSIUS,FAHRENHEIT,SIGN;DENTISTRY SYMBOL LIGHT:DOWN AND HORIZONTAL,
DOWN AND HORIZONTAL WITH CIRCLE,DOWN AND HORIZONTAL WITH TRIANGLE,DOWN AND HORIZONTAL WITH WAVE,
UP AND HORIZONTAL,UP AND HORIZONTAL WITH CIRCLE,UP AND HORIZONTAL WITH TRIANGLE,
UP AND HORIZONTAL WITH WAVE;DENTISTRY SYMBOL LIGHT VERTICAL:AND BOTTOM LEFT,AND BOTTOM RIGHT,
AND TOP LEFT,AND TOP RIGHT,AND WAVE,WITH CIRCLE,WITH TRIANGLE;DIAMOND:OPERATOR,
SHAPE WITH A DOT INSIDE;DIAMOND WITH:BOTTOM HALF BLACK,LEFT HALF BLACK,RIGHT HALF BLACK,
TOP HALF BLACK;DIE:FACE-1,FACE-2,FACE-3,FACE-4,FACE-5,FACE-6;DIGIT:EIGHT,EIGHT FULL STOP,FIVE,
FIVE FULL STOP,FOUR,FOUR FULL STOP,NINE,NINE FULL STOP,ONE,ONE FULL STOP,SEVEN,SEVEN FULL STOP,SIX,
SIX FULL STOP,THREE,THREE FULL STOP,TWO,TWO FULL STOP,ZERO;DIGRAM FOR:GREATER YANG,GREATER YIN,
LESSER YANG,LESSER YIN;DINGBAT CIRCLED SANS-SERIF:NUMBER TEN;
DINGBAT CIRCLED SANS-SERIF DIGIT:EIGHT,FIVE,FOUR,NINE,ONE,SEVEN,SIX,THREE,TWO;
DINGBAT NEGATIVE CIRCLED:NUMBER TEN;DINGBAT NEGATIVE CIRCLED DIGIT:EIGHT,FIVE,FOUR,NINE,ONE,SEVEN,
SIX,THREE,TWO;DINGBAT NEGATIVE CIRCLED SANS-SERIF:DIGIT EIGHT,DIGIT FIVE,DIGIT FOUR,DIGIT NINE,
DIGIT ONE,DIGIT SEVEN,DIGIT SIX,DIGIT THREE,DIGIT TWO,NUMBER TEN;DIVISION:SIGN,SLASH,TIMES;
DOCUMENT WITH:PICTURE,TEXT,TEXT AND PICTURE;DOES NOT:DIVIDE,FORCE,PRECEDE,PRECEDE OR EQUAL,PROVE,
SUCCEED,SUCCEED OR EQUAL;DOES NOT CONTAIN AS:MEMBER,NORMAL SUBGROUP,NORMAL SUBGROUP OR EQUAL;
DOT:MINUS,OPERATOR,PLUS;DOTTED:CIRCLE,CROSS,SQUARE;DOUBLE:CURLY LOOP,DAGGER,EXCLAMATION MARK,
HIGH-REVERSED-9 QUOTATION MARK,INTEGRAL,INTERSECTION,LOW LINE,LOW-9 QUOTATION MARK,PRIME,
PRIME QUOTATION MARK,QUESTION MARK,SUBSET,SUPERSET,UNION;DOUBLE CIRCLED:NUMBER TEN;
DOUBLE CIRCLED DIGIT:EIGHT,FIVE,FOUR,NINE,ONE,SEVEN,SIX,THREE,TWO;DOUBLE VERTICAL:BAR,
BAR DOUBLE RIGHT TURNSTILE,LINE;DOUBLE-STRUCK:N-ARY SUMMATION,SMALL GAMMA,SMALL PI;
DOUBLE-STRUCK CAPITAL:C,GAMMA,H,N,P,PI,Q,R,Z;DOUBLE-STRUCK ITALIC:CAPITAL D;
DOUBLE-STRUCK ITALIC SMALL:D,E,I,J;DOWN:ARROWHEAD,RIGHT DIAGONAL ELLIPSIS,TACK;
DOWNWARD FACING:HOOK,HOOK WITH DOT,NOTCHED HOOK,NOTCHED HOOK WITH DOT;DOWNWARDS:ARROW,BLACK ARROW,
DASHED ARROW,DOUBLE ARROW,HARPOON WITH BARB LEFTWARDS,HARPOON WITH BARB RIGHTWARDS,PAIRED ARROWS,
QUADRUPLE ARROW,TRIANGLE-HEADED ZIGZAG ARROW,TWO HEADED ARROW,WHITE ARROW,ZIGZAG ARROW;
DOWNWARDS ARROW:FROM BAR,LEFTWARDS OF UPWARDS ARROW;DOWNWARDS ARROW WITH:CORNER LEFTWARDS,
DOUBLE STROKE,TIP LEFTWARDS,TIP RIGHTWARDS;EAR:OF MAIZE,OF RICE,WITH HEARING AID;EARTH:GROUND;
EARTH GLOBE:AMERICAS,ASIA-AUSTRALIA,EUROPE-AFRICA;EIGHT:PETALLED OUTLINED BLACK FLORETTE,
SPOKED ASTERISK,TEARDROP-SPOKED PROPELLER ASTERISK;EIGHT POINTED:BLACK STAR,PINWHEEL STAR,
RECTILINEAR BLACK STAR;ELECTRIC:ARROW,LIGHT BULB,PLUG,TORCH;ELEMENT:OF;ELEMENT OF:OPENING UPWARDS;
ELEMENT OF WITH:DOT ABOVE,LONG HORIZONTAL STROKE,OVERBAR,TWO HORIZONTAL STROKES,UNDERBAR,
VERTICAL BAR AT END OF HORIZONTAL STROKE;EM:DASH,QUAD,SPACE;EMOJI COMPONENT:BALD,CURLY HAIR,
RED HAIR,WHITE HAIR;EMOJI MODIFIER FITZPATRICK:TYPE-1-2,TYPE-3,TYPE-4,TYPE-5,TYPE-6;EMPTY:DOCUMENT,
NOTE,NOTE PAD,NOTE PAGE,PAGE,PAGES,SET;EN:DASH,QUAD,SPACE;END:WITH LEFTWARDS ARROW ABOVE;
END OF:LINE,MEDIUM,PROOF,TEXT,TRANSMISSION;EQUAL:AND PARALLEL TO;EQUAL TO:BY DEFINITION;
EQUAL TO OR:GREATER-THAN,LESS-THAN,PRECEDES,SUCCEEDS;EQUALS:COLON,SIGN,SIGN ABOVE LEFTWARDS ARROW;
FACE:HOLDING BACK TEARS,MASSAGE,PALM,SAVOURING DELICIOUS FOOD,SCREAMING IN FEAR,THROWING A KISS,
WITHOUT MOUTH;FACE WITH:COLD SWEAT,COWBOY HAT,FINGER COVERING CLOSED LIPS,HEAD-BANDAGE,
LOOK OF TRIUMPH,MEDICAL MASK,MONOCLE,NO GOOD GESTURE,OK GESTURE,ONE EYEBROW RAISED,
PARTY HORN AND PARTY HAT,PLEADING EYES,ROLLING EYES,TEARS OF JOY,THERMOMETER,
UNEVEN EYES AND WAVY MOUTH;FACE WITH OPEN:MOUTH,MOUTH AND COLD SWEAT,MOUTH VOMITING;
FACE WITH STUCK-OUT:TONGUE,TONGUE AND TIGHTLY-CLOSED EYES,TONGUE AND WINKING EYE;FILE:CABINET,
FOLDER,SEPARATOR;FIRST:PLACE MEDAL,STRONG ISOLATE;FIRST QUARTER:MOON,MOON SYMBOL,MOON WITH FACE;
FLYING:DISC,ENVELOPE,SAUCER;FOUR:BALLOON-SPOKED ASTERISK,CLUB-SPOKED ASTERISK,DOT MARK,
DOT PUNCTUATION,LEAF CLOVER,TEARDROP-SPOKED ASTERISK;FRAME WITH:AN X,PICTURE,TILES;FULL:BLOCK,
MOON SYMBOL,MOON WITH FACE,OUTER JOIN,STOP;GREATER-THAN:BUT NOT EQUAL TO,BUT NOT EQUIVALENT TO,
EQUAL TO OR LESS-THAN,OR EQUAL TO,OR EQUIVALENT TO,OR LESS-THAN,OVER EQUAL TO,SIGN,WITH DOT;
GREEK:ANO TELEIA,BETA SYMBOL,DIALYTIKA TONOS,KAI SYMBOL,KAPPA SYMBOL,LOWER NUMERAL SIGN,
LUNATE EPSILON SYMBOL,LUNATE SIGMA SYMBOL,NUMERAL SIGN,PHI SYMBOL,PI SYMBOL,QUESTION MARK,
REVERSED LUNATE EPSILON SYMBOL,RHO SYMBOL,RHO WITH STROKE SYMBOL,THETA SYMBOL,TONOS,YPOGEGRAMMENI;
GREEK CAPITAL:DOTTED LUNATE SIGMA SYMBOL,KAI SYMBOL,LUNATE SIGMA SYMBOL,
REVERSED DOTTED LUNATE SIGMA SYMBOL,REVERSED LUNATE SIGMA SYMBOL,THETA SYMBOL;
GREEK CAPITAL LETTER:ALPHA,ALPHA WITH TONOS,ARCHAIC SAMPI,BETA,CHI,DELTA,EPSILON,
EPSILON WITH TONOS,ETA,ETA WITH TONOS,GAMMA,HETA,IOTA,IOTA WITH DIALYTIKA,IOTA WITH TONOS,KAPPA,
LAMDA,MU,NU,OMEGA,OMEGA WITH TONOS,OMICRON,OMICRON WITH TONOS,PAMPHYLIAN DIGAMMA,PHI,PI,PSI,RHO,
SAN,SHO,SIGMA,TAU,THETA,UPSILON,UPSILON WITH DIALYTIKA,UPSILON WITH TONOS,XI,YOT,ZETA;
GREEK LETTER:ARCHAIC KOPPA,DIGAMMA,KOPPA,SAMPI,STIGMA,YOT;GREEK SMALL:DOTTED LUNATE SIGMA SYMBOL,
REVERSED DOTTED LUNATE SIGMA SYMBOL,REVERSED LUNATE SIGMA SYMBOL;GREEK SMALL LETTER:ALPHA,
ALPHA WITH TONOS,ARCHAIC KOPPA,ARCHAIC SAMPI,BETA,CHI,DELTA,DIGAMMA,EPSILON,EPSILON WITH TONOS,ETA,
ETA WITH TONOS,FINAL SIGMA,GAMMA,HETA,IOTA,IOTA WITH DIALYTIKA,IOTA WITH DIALYTIKA AND TONOS,
IOTA WITH TONOS,KAPPA,KOPPA,LAMDA,MU,NU,OMEGA,OMEGA WITH TONOS,OMICRON,OMICRON WITH TONOS,
PAMPHYLIAN DIGAMMA,PHI,PI,PSI,RHO,SAMPI,SAN,SHO,SIGMA,STIGMA,TAU,THETA,UPSILON,
UPSILON WITH DIALYTIKA,UPSILON WITH DIALYTIKA AND TONOS,UPSILON WITH TONOS,XI,ZETA;
GREEK UPSILON WITH:ACUTE AND HOOK SYMBOL,DIAERESIS AND HOOK SYMBOL,HOOK SYMBOL;GREEN:APPLE,BOOK,
HEART,SALAD;GRINNING:CAT FACE WITH SMILING EYES,FACE;
GRINNING FACE WITH:ONE LARGE AND ONE SMALL EYE,SMILING EYES,STAR EYES;HAMMER AND:PICK,SICKLE,
WRENCH;HANGZHOU NUMERAL:EIGHT,FIVE,FOUR,NINE,ONE,SEVEN,SIX,TEN,THIRTY,THREE,TWENTY,TWO;
HEART:DECORATION;HEART WITH:ARROW,RIBBON,TIP ON THE LEFT;HEAVY:ASTERISK,BALLOT X,CHECK MARK,
CHEVRON SNOWFLAKE,CIRCLE,CIRCLE WITH CIRCLE INSIDE,CIRCLE WITH STROKE AND TWO DOTS ABOVE,
CIRCLED SALTIRE,CONCAVE-POINTED BLACK RIGHTWARDS ARROW,DASHED TRIANGLE-HEADED RIGHTWARDS ARROW,
DIVISION SIGN,DOLLAR SIGN,DOUBLE COMMA QUOTATION MARK ORNAMENT,
DOUBLE TURNED COMMA QUOTATION MARK ORNAMENT,EIGHT POINTED RECTILINEAR BLACK STAR,
EIGHT TEARDROP-SPOKED PROPELLER ASTERISK,EXCLAMATION MARK ORNAMENT,EXCLAMATION MARK SYMBOL,
FOUR BALLOON-SPOKED ASTERISK,GREEK CROSS,HEART EXCLAMATION MARK ORNAMENT,LARGE CIRCLE,LATIN CROSS,
LEFT-POINTING ANGLE BRACKET ORNAMENT,LEFT-POINTING ANGLE QUOTATION MARK ORNAMENT,
LOW DOUBLE COMMA QUOTATION MARK ORNAMENT,LOW SINGLE COMMA QUOTATION MARK ORNAMENT,
LOWER RIGHT-SHADOWED WHITE RIGHTWARDS ARROW,MINUS SIGN,MULTIPLICATION X,NORTH EAST ARROW,
OPEN CENTRE CROSS,OUTLINED BLACK STAR,OVAL WITH OVAL INSIDE,PLUS SIGN,
RIGHT-POINTING ANGLE BRACKET ORNAMENT,RIGHT-POINTING ANGLE QUOTATION MARK ORNAMENT,
RIGHTWARDS ARROW,ROUND-TIPPED RIGHTWARDS ARROW,SINGLE COMMA QUOTATION MARK ORNAMENT,
SINGLE TURNED COMMA QUOTATION MARK ORNAMENT,SOUTH EAST ARROW,SPARKLE,
TEARDROP-SHANKED RIGHTWARDS ARROW,TEARDROP-SPOKED ASTERISK,TEARDROP-SPOKED PINWHEEL ASTERISK,
TRIANGLE-HEADED RIGHTWARDS ARROW,UPPER RIGHT-SHADOWED WHITE RIGHTWARDS ARROW,VERTICAL BAR,
WEDGE-TAILED RIGHTWARDS ARROW,WHITE DOWN-POINTING TRIANGLE,WIDE-HEADED RIGHTWARDS ARROW;
HEAVY BLACK:CURVED DOWNWARDS AND RIGHTWARDS ARROW,CURVED UPWARDS AND RIGHTWARDS ARROW,HEART;
HEAVY BLACK-FEATHERED:NORTH EAST ARROW,RIGHTWARDS ARROW,SOUTH EAST ARROW;HEBREW LETTER:ALEF,AYIN,
BET,DALET,GIMEL,HE,HET,KAF,LAMED,MEM,NUN,PE,QOF,RESH,SAMEKH,SHIN,TAV,TET,TSADI,VAV,YOD,ZAYIN;
HEBREW LETTER FINAL:KAF,MEM,NUN,PE,TSADI;HIRAGANA:DIGRAPH YORI,ITERATION MARK,
VOICED ITERATION MARK;HIRAGANA LETTER:A,BA,BE,BI,BO,BU,DA,DE,DI,DO,DU,E,GA,GE,GI,GO,GU,HA,HE,HI,HO,
HU,I,KA,KE,KI,KO,KU,MA,ME,MI,MO,MU,N,NA,NE,NI,NO,NU,O,PA,PE,PI,PO,PU,RA,RE,RI,RO,RU,SA,SE,SI,SO,SU,
TA,TE,TI,TO,TU,U,VU,WA,WE,WI,WO,YA,YO,YU,ZA,ZE,ZI,ZO,ZU;HIRAGANA LETTER SMALL:A,E,I,KA,KE,O,TU,U,
WA,YA,YO,YU;HORIZONTAL:BAR,BLACK HEXAGON,ELLIPSIS,LINE EXTENSION,MALE WITH STROKE SIGN,TABULATION,
TRAFFIC LIGHT;HORIZONTAL SCAN:LINE-1,LINE-3,LINE-7,LINE-9;HOT:BEVERAGE,DOG,PEPPER,SPRINGS;
HOUSE:BUILDING,BUILDINGS,WITH GARDEN;ICE:CREAM,CUBE,HOCKEY STICK AND PUCK,SKATE;
IDEOGRAPHIC:CLOSING MARK,COMMA,DEPARTING TONE MARK,ENTERING TONE MARK,FULL STOP,HALF FILL SPACE,
ITERATION MARK,LEVEL TONE MARK,NUMBER ZERO,RISING TONE MARK,SPACE,
TELEGRAPH LINE FEED SEPARATOR SYMBOL,VARIATION INDICATOR;INFORMATION:DESK PERSON,SEPARATOR FOUR,
SOURCE;INPUT SYMBOL FOR:NUMBERS,SYMBOLS;INPUT SYMBOL FOR LATIN:CAPITAL LETTERS,LETTERS,
SMALL LETTERS;INVERTED:EXCLAMATION MARK,LAZY S,OHM SIGN,PENTAGRAM,QUESTION MARK,UNDERTIE;
INVISIBLE:PLUS,SEPARATOR,TIMES;JAPANESE:BANK SYMBOL,CASTLE,DOLLS,GOBLIN,INDUSTRIAL STANDARD SYMBOL,
OGRE,POST OFFICE,SYMBOL FOR BEGINNER;KATAKANA:DIGRAPH KOTO,ITERATION MARK,MIDDLE DOT,
VOICED ITERATION MARK;KATAKANA LETTER:A,BA,BE,BI,BO,BU,DA,DE,DI,DO,DU,E,GA,GE,GI,GO,GU,HA,HE,HI,HO,
HU,I,KA,KE,KI,KO,KU,MA,ME,MI,MO,MU,N,NA,NE,NI,NO,NU,O,PA,PE,PI,PO,PU,RA,RE,RI,RO,RU,SA,SE,SI,SO,SU,
TA,TE,TI,TO,TU,U,VA,VE,VI,VO,VU,WA,WE,WI,WO,YA,YO,YU,ZA,ZE,ZI,ZO,ZU;KATAKANA LETTER SMALL:A,E,I,KA,
KE,O,TU,U,WA,YA,YO,YU;KATAKANA-HIRAGANA:DOUBLE HYPHEN,PROLONGED SOUND MARK,SEMI-VOICED SOUND MARK,
VOICED SOUND MARK;KISSING:CAT FACE WITH CLOSED EYES,FACE,FACE WITH CLOSED EYES,
FACE WITH SMILING EYES;LARGE:BLUE CIRCLE,BLUE DIAMOND,CIRCLE,DOWN TACK,ORANGE DIAMOND,RED CIRCLE,
UP TACK;LAST QUARTER:MOON,MOON SYMBOL,MOON WITH FACE;LATIN:CROSS;LATIN CAPITAL:LIGATURE IJ,
LIGATURE OE;LATIN CAPITAL LETTER:A,AE,AE WITH ACUTE,AE WITH MACRON,AFRICAN D,B,B WITH HOOK,
B WITH STROKE,B WITH TOPBAR,C,C WITH ACUTE,C WITH CARON,C WITH CEDILLA,C WITH CIRCUMFLEX,
C WITH DOT ABOVE,C WITH HOOK,C WITH STROKE,D,D WITH CARON,D WITH HOOK,D WITH SMALL LETTER Z,
D WITH SMALL LETTER Z WITH CARON,D WITH STROKE,D WITH TOPBAR,DZ,DZ WITH CARON,E,ENG,ESH,ETH,EZH,
EZH REVERSED,EZH WITH CARON,F,F WITH HOOK,G,G WITH ACUTE,G WITH BREVE,G WITH CARON,G WITH CEDILLA,
G WITH CIRCUMFLEX,G WITH DOT ABOVE,G WITH HOOK,G WITH STROKE,GAMMA,GLOTTAL STOP,H,H WITH CARON,
H WITH CIRCUMFLEX,H WITH STROKE,HWAIR,I,IOTA,J,J WITH CIRCUMFLEX,J WITH STROKE,K,K WITH CARON,
K WITH CEDILLA,K WITH HOOK,L,L WITH ACUTE,L WITH BAR,L WITH CARON,L WITH CEDILLA,L WITH MIDDLE DOT,
L WITH SMALL LETTER J,L WITH STROKE,LJ,M,N,N WITH ACUTE,N WITH CARON,N WITH CEDILLA,N WITH GRAVE,
N WITH LEFT HOOK,N WITH LONG RIGHT LEG,N WITH SMALL LETTER J,N WITH TILDE,NJ,O,OI,OPEN E,OPEN O,OU,
P,P WITH HOOK,Q,R,R WITH ACUTE,R WITH CARON,R WITH CEDILLA,R WITH DOUBLE GRAVE,
R WITH INVERTED BREVE,R WITH STROKE,REVERSED E,S,S WITH ACUTE,S WITH CARON,S WITH CEDILLA,
S WITH CIRCUMFLEX,S WITH COMMA BELOW,SCHWA,SMALL Q WITH HOOK TAIL,T,T WITH CARON,T WITH CEDILLA,
T WITH COMMA BELOW,T WITH DIAGONAL STROKE,T WITH HOOK,T WITH RETROFLEX HOOK,T WITH STROKE,THORN,
TONE FIVE,TONE SIX,TONE TWO,TURNED M,TURNED V,U,UPSILON,V,V WITH HOOK,W,W WITH CIRCUMFLEX,WYNN,X,Y,
Y WITH ACUTE,Y WITH CIRCUMFLEX,Y WITH DIAERESIS,Y WITH HOOK,Y WITH MACRON,Y WITH STROKE,YOGH,Z,
Z WITH ACUTE,Z WITH CARON,Z WITH DOT ABOVE,Z WITH HOOK,Z WITH STROKE;
LATIN CAPITAL LETTER A:WITH ACUTE,WITH BREVE,WITH CARON,WITH CIRCUMFLEX,WITH DIAERESIS,
WITH DIAERESIS AND MACRON,WITH DOT ABOVE,WITH DOT ABOVE AND MACRON,WITH DOUBLE GRAVE,WITH GRAVE,
WITH INVERTED BREVE,WITH MACRON,WITH OGONEK,WITH RING ABOVE,WITH RING ABOVE AND ACUTE,WITH STROKE,
WITH TILDE;LATIN CAPITAL LETTER E:WITH ACUTE,WITH BREVE,WITH CARON,WITH CEDILLA,WITH CIRCUMFLEX,
WITH DIAERESIS,WITH DOT ABOVE,WITH DOUBLE GRAVE,WITH GRAVE,WITH INVERTED BREVE,WITH MACRON,
WITH OGONEK,WITH STROKE;LATIN CAPITAL LETTER I:WITH ACUTE,WITH BREVE,WITH CARON,WITH CIRCUMFLEX,
WITH DIAERESIS,WITH DOT ABOVE,WITH DOUBLE GRAVE,WITH GRAVE,WITH INVERTED BREVE,WITH MACRON,
WITH OGONEK,WITH STROKE,WITH TILDE;LATIN CAPITAL LETTER O:WITH ACUTE,WITH BREVE,WITH CARON,
WITH CIRCUMFLEX,WITH DIAERESIS,WITH DIAERESIS AND MACRON,WITH DOT ABOVE,WITH DOT ABOVE AND MACRON,
WITH DOUBLE ACUTE,WITH DOUBLE GRAVE,WITH GRAVE,WITH HORN,WITH INVERTED BREVE,WITH MACRON,
WITH MIDDLE TILDE,WITH OGONEK,WITH OGONEK AND MACRON,WITH STROKE,WITH STROKE AND ACUTE,WITH TILDE,
WITH TILDE AND MACRON;LATIN CAPITAL LETTER U:BAR,WITH ACUTE,WITH BREVE,WITH CARON,WITH CIRCUMFLEX,
WITH DIAERESIS,WITH DIAERESIS AND ACUTE,WITH DIAERESIS AND CARON,WITH DIAERESIS AND GRAVE,
WITH DIAERESIS AND MACRON,WITH DOUBLE ACUTE,WITH DOUBLE GRAVE,WITH GRAVE,WITH HORN,
WITH INVERTED BREVE,WITH MACRON,WITH OGONEK,WITH RING ABOVE,WITH TILDE;LATIN LETTER:ALVEOLAR CLICK,
DENTAL CLICK,INVERTED GLOTTAL STOP WITH STROKE,LATERAL CLICK,RETROFLEX CLICK,REVERSED ESH LOOP,
TWO WITH STROKE,WYNN,YR;LATIN SMALL:LIGATURE IJ,LIGATURE OE;LATIN SMALL LETTER:A,AE,AE WITH ACUTE,
AE WITH MACRON,B,B WITH STROKE,B WITH TOPBAR,C,C WITH ACUTE,C WITH CARON,C WITH CEDILLA,
C WITH CIRCUMFLEX,C WITH DOT ABOVE,C WITH HOOK,C WITH STROKE,D,D WITH CARON,D WITH CURL,
D WITH STROKE,D WITH TOPBAR,DB DIGRAPH,DOTLESS I,DOTLESS J,DZ,DZ WITH CARON,E,ENG,ETH,EZH REVERSED,
EZH WITH CARON,EZH WITH TAIL,F,F WITH HOOK,G,G WITH ACUTE,G WITH BREVE,G WITH CARON,G WITH CEDILLA,
G WITH CIRCUMFLEX,G WITH DOT ABOVE,G WITH STROKE,GLOTTAL STOP,H,H WITH CARON,H WITH CIRCUMFLEX,
H WITH STROKE,HV,I,J,J WITH CARON,J WITH CIRCUMFLEX,J WITH STROKE,K,K WITH CARON,K WITH CEDILLA,
K WITH HOOK,KRA,L,L WITH ACUTE,L WITH BAR,L WITH CARON,L WITH CEDILLA,L WITH CURL,
L WITH MIDDLE DOT,L WITH STROKE,LAMBDA WITH STROKE,LJ,LONG S,M,N,N PRECEDED BY APOSTROPHE,
N WITH ACUTE,N WITH CARON,N WITH CEDILLA,N WITH CURL,N WITH GRAVE,N WITH LONG RIGHT LEG,
N WITH TILDE,NJ,O,OI,OU,P,P WITH HOOK,Q,Q WITH HOOK TAIL,QP DIGRAPH,R,R WITH ACUTE,R WITH CARON,
R WITH CEDILLA,R WITH DOUBLE GRAVE,R WITH INVERTED BREVE,R WITH STROKE,REVERSED C,S,S WITH ACUTE,
S WITH CARON,S WITH CEDILLA,S WITH CIRCUMFLEX,S WITH COMMA BELOW,S WITH SWASH TAIL,SHARP S,T,
T WITH CARON,T WITH CEDILLA,T WITH COMMA BELOW,T WITH CURL,T WITH HOOK,T WITH PALATAL HOOK,
T WITH STROKE,THORN,TONE FIVE,TONE SIX,TONE TWO,TURNED DELTA,TURNED E,U,V,W,W WITH CIRCUMFLEX,X,Y,
Y WITH ACUTE,Y WITH CIRCUMFLEX,Y WITH DIAERESIS,Y WITH HOOK,Y WITH MACRON,Y WITH STROKE,YOGH,Z,
Z WITH ACUTE,Z WITH CARON,Z WITH DOT ABOVE,Z WITH HOOK,Z WITH STROKE,Z WITH SWASH TAIL;
LATIN SMALL LETTER A:WITH ACUTE,WITH BREVE,WITH CARON,WITH CIRCUMFLEX,WITH DIAERESIS,
WITH DIAERESIS AND MACRON,WITH DOT ABOVE,WITH DOT ABOVE AND MACRON,WITH DOUBLE GRAVE,WITH GRAVE,
WITH INVERTED BREVE,WITH MACRON,WITH OGONEK,WITH RING ABOVE,WITH RING ABOVE AND ACUTE,WITH TILDE;
LATIN SMALL LETTER E:WITH ACUTE,WITH BREVE,WITH CARON,WITH CEDILLA,WITH CIRCUMFLEX,WITH DIAERESIS,
WITH DOT ABOVE,WITH DOUBLE GRAVE,WITH GRAVE,WITH INVERTED BREVE,WITH MACRON,WITH OGONEK,
WITH STROKE;LATIN SMALL LETTER I:WITH ACUTE,WITH BREVE,WITH CARON,WITH CIRCUMFLEX,WITH DIAERESIS,
WITH DOUBLE GRAVE,WITH GRAVE,WITH INVERTED BREVE,WITH MACRON,WITH OGONEK,WITH TILDE;
LATIN SMALL LETTER O:WITH ACUTE,WITH BREVE,WITH CARON,WITH CIRCUMFLEX,WITH DIAERESIS,
WITH DIAERESIS AND MACRON,WITH DOT ABOVE,WITH DOT ABOVE AND MACRON,WITH DOUBLE ACUTE,
WITH DOUBLE GRAVE,WITH GRAVE,WITH HORN,WITH INVERTED BREVE,WITH MACRON,WITH OGONEK,
WITH OGONEK AND MACRON,WITH STROKE,WITH STROKE AND ACUTE,WITH TILDE,WITH TILDE AND MACRON;
LATIN SMALL LETTER U:WITH ACUTE,WITH BREVE,WITH CARON,WITH CIRCUMFLEX,WITH DIAERESIS,
WITH DIAERESIS AND ACUTE,WITH DIAERESIS AND CARON,WITH DIAERESIS AND GRAVE,
WITH DIAERESIS AND MACRON,WITH DOUBLE ACUTE,WITH DOUBLE GRAVE,WITH GRAVE,WITH HORN,
WITH INVERTED BREVE,WITH MACRON,WITH OGONEK,WITH RING ABOVE,WITH TILDE;
LATIN SUBSCRIPT SMALL LETTER:A,E,H,K,L,M,N,O,P,S,SCHWA,T,X;LEFT:AND RIGHT DOUBLE TURNSTILE,
AND RIGHT TACK,ANGER BUBBLE,ANGLE BRACKET,ARROW WITH CIRCLED PLUS,ARROW WITH SMALL CIRCLE,
BLACK LENTICULAR BRACKET,CEILING,CLOSED ENTRY,CORNER BRACKET,DOUBLE ANGLE BRACKET,
DOUBLE QUOTATION MARK,FIVE EIGHTHS BLOCK,FLOOR,HAND TELEPHONE RECEIVER,LUGGAGE,MULTIMAP,
NORMAL FACTOR SEMIDIRECT PRODUCT,ONE EIGHTH BLOCK,ONE QUARTER BLOCK,OUTER JOIN,PARENTHESIS,
S-SHAPED BAG DELIMITER,SEMIDIRECT PRODUCT,SEVEN EIGHTHS BLOCK,SINGLE QUOTATION MARK,SPEECH BUBBLE,
TACK,THOUGHT BUBBLE,THREE EIGHTHS BLOCK,THREE QUARTERS BLOCK,TORTOISE SHELL BRACKET,
VERTICAL BOX LINE,WRITING HAND;LEFT CURLY:BRACKET;LEFT CURLY BRACKET:LOWER HOOK,MIDDLE PIECE,
UPPER HOOK;LEFT HALF:BLACK CIRCLE,BLOCK,CIRCLE;LEFT HALF CIRCLE WITH:DOT,FOUR DOTS,THREE DOTS,
TWO DOTS;LEFT PARENTHESIS:EXTENSION,LOWER HOOK,UPPER HOOK;LEFT RIGHT:ARROW,BLACK ARROW,
DOUBLE ARROW,DOUBLE ARROW WITH STROKE,OPEN-HEADED ARROW,WAVE ARROW,WHITE ARROW;
LEFT RIGHT ARROW WITH:DOUBLE VERTICAL STROKE,STROKE,VERTICAL STROKE;LEFT SQUARE:BRACKET;
LEFT SQUARE BRACKET:EXTENSION,LOWER CORNER,UPPER CORNER,WITH QUILL;LEFT WHITE:CORNER BRACKET,
LENTICULAR BRACKET,SQUARE BRACKET,TORTOISE SHELL BRACKET;LEFT-POINTING:ANGLE BRACKET,
DOUBLE ANGLE QUOTATION MARK,MAGNIFYING GLASS;LEFT-TO-RIGHT:EMBEDDING,ISOLATE,MARK,OVERRIDE;
LEFTWARDS:ARROW,BLACK ARROW,DASHED ARROW,DOUBLE ARROW,DOUBLE ARROW WITH STROKE,OPEN-HEADED ARROW,
PAIRED ARROWS,QUADRUPLE ARROW,SQUIGGLE ARROW,TRIPLE ARROW,TWO HEADED ARROW,WAVE ARROW,WHITE ARROW;
LEFTWARDS ARROW:ABOVE ALMOST EQUAL TO,ABOVE REVERSE ALMOST EQUAL TO,ABOVE REVERSE TILDE OPERATOR,
FROM BAR,OVER RIGHTWARDS ARROW,THROUGH X,TO BAR,TO BAR OVER RIGHTWARDS ARROW TO BAR;
LEFTWARDS ARROW WITH:DOTTED STEM,DOUBLE VERTICAL STROKE,HOOK,LOOP,STROKE,TAIL,
TAIL WITH DOUBLE VERTICAL STROKE,TAIL WITH VERTICAL STROKE,TIP DOWNWARDS,TIP UPWARDS,
VERTICAL STROKE;LEFTWARDS HARPOON:OVER RIGHTWARDS HARPOON,WITH BARB DOWNWARDS,WITH BARB UPWARDS;
LEFTWARDS TWO-HEADED:TRIPLE DASH ARROW;LEFTWARDS TWO-HEADED ARROW:FROM BAR;
LEFTWARDS TWO-HEADED ARROW WITH:DOUBLE VERTICAL STROKE,TAIL,TAIL WITH DOUBLE VERTICAL STROKE,
TAIL WITH VERTICAL STROKE,VERTICAL STROKE;LESS-THAN:BUT NOT EQUAL TO,BUT NOT EQUIVALENT TO,
EQUAL TO OR GREATER-THAN,OR EQUAL TO,OR EQUIVALENT TO,OR GREATER-THAN,OVER EQUAL TO,SIGN,WITH DOT;
LIGHT:CHECK MARK,LEFT TORTOISE SHELL BRACKET ORNAMENT,RAIL,RIGHT TORTOISE SHELL BRACKET ORNAMENT,
SHADE,VERTICAL BAR;LINE:FEED,SEPARATOR,TABULATION;LONG:DIVISION,RIGHT TACK;LONG LEFT:RIGHT ARROW,
RIGHT DOUBLE ARROW,TACK;LONG LEFTWARDS:ARROW,ARROW FROM BAR,DOUBLE ARROW,DOUBLE ARROW FROM BAR,
SQUIGGLE ARROW;LONG RIGHTWARDS:ARROW,ARROW FROM BAR,DOUBLE ARROW,DOUBLE ARROW FROM BAR,
SQUIGGLE ARROW;LOW:ASTERISK,BRIGHTNESS SYMBOL,DOUBLE PRIME QUOTATION MARK,LINE;
LOWER:BLADE SCISSORS,FIVE EIGHTHS BLOCK,ONE EIGHTH BLOCK,ONE QUARTER BLOCK,SEVEN EIGHTHS BLOCK,
THREE EIGHTHS BLOCK,THREE QUARTERS BLOCK;LOWER HALF:BLOCK,CIRCLE,INVERSE WHITE CIRCLE;
LOWER LEFT:BALLPOINT PEN,CRAYON,FOUNTAIN PEN,PAINTBRUSH,PENCIL,QUADRANT CIRCULAR ARC,TRIANGLE;
LOWER RIGHT:CORNER WITH DOT,DROP-SHADOWED WHITE SQUARE,PENCIL,QUADRANT CIRCULAR ARC,
SHADOWED WHITE CIRCLE,SHADOWED WHITE SQUARE,TRIANGLE;MALE:AND FEMALE SIGN,SIGN,
WITH STROKE AND MALE AND FEMALE SIGN,WITH STROKE SIGN;MAN:AND WOMAN HOLDING HANDS,DANCING,
IN BUSINESS SUIT LEVITATING,IN TUXEDO,WITH GUA PI MAO,WITH TURBAN;MATHEMATICAL:FALLING DIAGONAL,
RISING DIAGONAL;MATHEMATICAL LEFT:ANGLE BRACKET,DOUBLE ANGLE BRACKET,FLATTENED PARENTHESIS,
WHITE SQUARE BRACKET,WHITE TORTOISE SHELL BRACKET;MATHEMATICAL RIGHT:ANGLE BRACKET,
DOUBLE ANGLE BRACKET,FLATTENED PARENTHESIS,WHITE SQUARE BRACKET,WHITE TORTOISE SHELL BRACKET;
MEDIUM:BLACK CIRCLE,FLATTENED LEFT PARENTHESIS ORNAMENT,FLATTENED RIGHT PARENTHESIS ORNAMENT,
LEFT CURLY BRACKET ORNAMENT,LEFT PARENTHESIS ORNAMENT,LEFT-POINTING ANGLE BRACKET ORNAMENT,
MATHEMATICAL SPACE,RIGHT CURLY BRACKET ORNAMENT,RIGHT PARENTHESIS ORNAMENT,
RIGHT-POINTING ANGLE BRACKET ORNAMENT,SHADE,SMALL WHITE CIRCLE,VERTICAL BAR,WHITE CIRCLE;
METRICAL:BREVE,LONG OVER SHORT,LONG OVER TWO SHORTS,PENTASEME,SHORT OVER LONG,TETRASEME,TRISEME,
TWO SHORTS JOINED,TWO SHORTS OVER LONG;MOBILE:PHONE,PHONE OFF,PHONE WITH RIGHTWARDS ARROW AT LEFT;
MOUNTAIN:BICYCLIST,CABLEWAY,RAILWAY;MUSIC:FLAT SIGN,NATURAL SIGN,SHARP SIGN;MUSICAL:KEYBOARD,
KEYBOARD WITH JACKS,NOTE,SCORE;N-ARY:COPRODUCT,INTERSECTION,LOGICAL AND,LOGICAL OR,PRODUCT,
SUMMATION,UNION;NEGATIVE:SQUARED CROSS MARK;NEGATIVE CIRCLED:DIGIT ZERO;
NEGATIVE CIRCLED NUMBER:EIGHTEEN,ELEVEN,FIFTEEN,FOURTEEN,NINETEEN,SEVENTEEN,SIXTEEN,THIRTEEN,
TWELVE,TWENTY;NEITHER:A SUBSET OF NOR EQUAL TO,A SUPERSET OF NOR EQUAL TO,
APPROXIMATELY NOR ACTUALLY EQUAL TO;NEITHER GREATER-THAN NOR:EQUAL TO,EQUIVALENT TO,LESS-THAN;
NEITHER LESS-THAN NOR:EQUAL TO,EQUIVALENT TO,GREATER-THAN;NEW:LINE,MOON SYMBOL,MOON WITH FACE,
SHEQEL SIGN;NO:BICYCLES,ENTRY,ENTRY SIGN,MOBILE PHONES,ONE UNDER EIGHTEEN SYMBOL,PEDESTRIANS,
PIRACY,SMOKING SYMBOL;NORTH EAST:ARROW,BLACK ARROW,DOUBLE ARROW,WHITE ARROW;NORTH WEST:ARROW,
ARROW TO CORNER,ARROW TO LONG BAR,BLACK ARROW,DOUBLE ARROW,WHITE ARROW;NOT:A SUBSET OF,
A SUPERSET OF,ALMOST EQUAL TO,AN ELEMENT OF,ASYMPTOTICALLY EQUAL TO,CHECK MARK,EQUAL TO,
EQUIVALENT TO,GREATER-THAN,IDENTICAL TO,LESS-THAN,NORMAL SUBGROUP OF,
NORMAL SUBGROUP OF OR EQUAL TO,PARALLEL TO,SIGN,SQUARE IMAGE OF OR EQUAL TO,
SQUARE ORIGINAL OF OR EQUAL TO,TILDE,TRUE;NOTCHED:LEFT SEMICIRCLE WITH THREE DOTS,
LOWER RIGHT-SHADOWED WHITE RIGHTWARDS ARROW,RIGHT SEMICIRCLE WITH THREE DOTS,
UPPER RIGHT-SHADOWED WHITE RIGHTWARDS ARROW;NUMBER:EIGHTEEN FULL STOP,ELEVEN FULL STOP,
FIFTEEN FULL STOP,FOURTEEN FULL STOP,NINETEEN FULL STOP,SEVENTEEN FULL STOP,SIGN,SIXTEEN FULL STOP,
TEN FULL STOP,THIRTEEN FULL STOP,TWELVE FULL STOP,TWENTY FULL STOP;OLDER:ADULT,MAN,WOMAN;
ONCOMING:AUTOMOBILE,BUS,FIRE ENGINE,POLICE CAR,TAXI;OPEN:BOOK,FILE FOLDER,FOLDER,HANDS SIGN,LOCK,
MAILBOX WITH LOWERED FLAG,MAILBOX WITH RAISED FLAG,SUBSET,SUPERSET;OPEN CENTRE:ASTERISK,BLACK STAR,
CROSS,TEARDROP-SPOKED ASTERISK;OUTLINED:BLACK STAR,GREEK CROSS,LATIN CROSS,WHITE STAR;
PAGE:FACING UP,WITH CIRCLED TEXT,WITH CURL;PARENTHESIZED DIGIT:EIGHT,FIVE,FOUR,NINE,ONE,SEVEN,SIX,
THREE,TWO;PARENTHESIZED LATIN SMALL LETTER:A,B,C,D,E,F,G,H,I,J,K,L,M,N,O,P,Q,R,S,T,U,V,W,X,Y,Z;
PARENTHESIZED NUMBER:EIGHTEEN,ELEVEN,FIFTEEN,FOURTEEN,NINETEEN,SEVENTEEN,SIXTEEN,TEN,THIRTEEN,
TWELVE,TWENTY;PER:MILLE SIGN,SIGN,TEN THOUSAND SIGN;PERSON:BOWING DEEPLY,CLIMBING,DOING CARTWHEEL,
FROWNING,IN LOTUS POSITION,IN STEAMY ROOM,RAISING BOTH HANDS IN CELEBRATION;PERSON WITH:BALL,
BLOND HAIR,FOLDED HANDS,HEADSCARF,POUTING FACE;POLICE:CAR,CARS REVOLVING LIGHT,OFFICER;POSTAL:HORN,
MARK,MARK FACE;POWER:ON SYMBOL,ON-OFF SYMBOL,SLEEP SYMBOL,SYMBOL;PRECEDES:BUT NOT EQUIVALENT TO,
OR EQUAL TO,OR EQUIVALENT TO,UNDER RELATION;QUADRANT:LOWER LEFT,LOWER RIGHT;QUADRANT UPPER:LEFT,
RIGHT,RIGHT AND LOWER LEFT,RIGHT AND LOWER LEFT AND LOWER RIGHT;
QUADRANT UPPER LEFT AND:LOWER LEFT AND LOWER RIGHT,LOWER RIGHT,UPPER RIGHT AND LOWER LEFT,
UPPER RIGHT AND LOWER RIGHT;RAISED:BACK OF HAND,FIST,HAND,HAND WITH FINGERS SPLAYED,
HAND WITH PART BETWEEN MIDDLE AND RING FINGERS;RECYCLING SYMBOL FOR:GENERIC MATERIALS,
TYPE-1 PLASTICS,TYPE-2 PLASTICS,TYPE-3 PLASTICS,TYPE-4 PLASTICS,TYPE-5 PLASTICS,TYPE-6 PLASTICS,
TYPE-7 PLASTICS;REVERSE:SOLIDUS,SOLIDUS PRECEDING SUBSET,TILDE OPERATOR ABOVE LEFTWARDS ARROW,
TILDE OPERATOR ABOVE RIGHTWARDS ARROW;REVERSED:DOUBLE PRIME,DOUBLE PRIME QUOTATION MARK,
HAND WITH MIDDLE FINGER EXTENDED,NOT SIGN,PILCROW SIGN,PRIME,RAISED HAND WITH FINGERS SPLAYED,
ROTATED FLORAL HEART BULLET,SANS-SERIF CAPITAL L,SEMICOLON,THUMBS DOWN SIGN,THUMBS UP SIGN,TILDE,
TILDE EQUALS,TRIPLE PRIME,VICTORY HAND;RIGHT:ANGER BUBBLE,ANGLE,ARROW WITH CIRCLED PLUS,
ARROW WITH SMALL CIRCLE,BLACK LENTICULAR BRACKET,CEILING,CORNER BRACKET,DOUBLE ANGLE BRACKET,
DOUBLE QUOTATION MARK,FLOOR,HALF BLACK CIRCLE,HALF BLOCK,HAND TELEPHONE RECEIVER,
NORMAL FACTOR SEMIDIRECT PRODUCT,ONE EIGHTH BLOCK,OUTER JOIN,PARENTHESIS,S-SHAPED BAG DELIMITER,
SEMIDIRECT PRODUCT,SINGLE QUOTATION MARK,SPEAKER,SPEAKER WITH ONE SOUND WAVE,
SPEAKER WITH THREE SOUND WAVES,SPEECH BUBBLE,TACK,THOUGHT BUBBLE,TORTOISE SHELL BRACKET,TRIANGLE,
VERTICAL BOX LINE;RIGHT ANGLE:BRACKET,WITH ARC,WITH DOWNWARDS ZIGZAG ARROW;RIGHT CURLY:BRACKET;
RIGHT CURLY BRACKET:LOWER HOOK,MIDDLE PIECE,UPPER HOOK;RIGHT PARENTHESIS:EXTENSION,LOWER HOOK,
UPPER HOOK;RIGHT SQUARE:BRACKET;RIGHT SQUARE BRACKET:EXTENSION,LOWER CORNER,UPPER CORNER,
WITH QUILL;RIGHT WHITE:CORNER BRACKET,LENTICULAR BRACKET,SQUARE BRACKET,TORTOISE SHELL BRACKET;
RIGHT-POINTING:ANGLE BRACKET,DOUBLE ANGLE QUOTATION MARK,MAGNIFYING GLASS;RIGHT-TO-LEFT:EMBEDDING,
ISOLATE,MARK,OVERRIDE;RIGHTWARDS:ARROW,DASHED ARROW,DOUBLE ARROW,DOUBLE ARROW WITH STROKE,
OPEN-HEADED ARROW,PAIRED ARROWS,QUADRUPLE ARROW,SQUIGGLE ARROW,TRIPLE ARROW,TWO HEADED ARROW,
WAVE ARROW,WHITE ARROW,WHITE ARROW FROM WALL;RIGHTWARDS ARROW:ABOVE REVERSE ALMOST EQUAL TO,
ABOVE REVERSE TILDE OPERATOR,FROM BAR,OVER LEFTWARDS ARROW,THROUGH GREATER-THAN,THROUGH SUPERSET,
TO BAR;RIGHTWARDS ARROW WITH:CORNER DOWNWARDS,DOUBLE VERTICAL STROKE,HOOK,LOOP,STROKE,TAIL,
TIP DOWNWARDS,TIP UPWARDS,VERTICAL STROKE;RIGHTWARDS HARPOON:OVER LEFTWARDS HARPOON,
WITH BARB DOWNWARDS,WITH BARB UPWARDS;RING:BUOY,EQUAL TO,IN EQUAL TO,OPERATOR;ROMAN NUMERAL:EIGHT,
ELEVEN,FIFTY,FIFTY EARLY FORM,FIFTY THOUSAND,FIVE,FIVE HUNDRED,FIVE THOUSAND,FOUR,NINE,ONE,
REVERSED ONE HUNDRED,SEVEN,SIX,SIX LATE FORM,TEN,TEN THOUSAND,THREE,TWELVE,TWO;
ROMAN NUMERAL ONE:HUNDRED,HUNDRED THOUSAND,THOUSAND,THOUSAND C D;ROTATED:CAPITAL Q,
FLORAL HEART BULLET,HEAVY BLACK HEART BULLET;SCRIPT CAPITAL:B,E,F,H,I,L,M,P,R;SCRIPT SMALL:E,G,L,O;
SHADOWED WHITE:CIRCLE,LATIN CROSS,STAR;SHORT:BACKSLANTED SOUTH ARROW,
BENT ARROW POINTING DOWNWARDS THEN NORTH EAST,SLANTED NORTH ARROW;
SIDEWAYS BLACK:DOWN POINTING INDEX,LEFT POINTING INDEX,RIGHT POINTING INDEX,UP POINTING INDEX;
SIDEWAYS WHITE:DOWN POINTING INDEX,LEFT POINTING INDEX,RIGHT POINTING INDEX,UP POINTING INDEX;
SINGLE:HIGH-REVERSED-9 QUOTATION MARK,LEFT-POINTING ANGLE QUOTATION MARK,LOW-9 QUOTATION MARK,
RIGHT-POINTING ANGLE QUOTATION MARK;SIX:PETALLED BLACK AND WHITE FLORETTE,POINTED BLACK STAR,
POINTED STAR WITH MIDDLE DOT;SLEEPING:ACCOMMODATION,FACE,SYMBOL;SMALL:AIRPLANE,BLUE DIAMOND,
ORANGE DIAMOND;SMALL CONTAINS:AS MEMBER,WITH OVERBAR,WITH VERTICAL BAR AT END OF HORIZONTAL STROKE;
SMALL ELEMENT:OF,OF WITH OVERBAR,OF WITH VERTICAL BAR AT END OF HORIZONTAL STROKE;
SMALL ROMAN NUMERAL:EIGHT,ELEVEN,FIFTY,FIVE,FIVE HUNDRED,FOUR,NINE,ONE,ONE HUNDRED,ONE THOUSAND,
SEVEN,SIX,TEN,THREE,TWELVE,TWO;SMILING:CAT FACE WITH HEART-SHAPED EYES,CAT FACE WITH OPEN MOUTH;
SMILING FACE WITH:HALO,HEART-SHAPED EYES,HORNS,SUNGLASSES,TEAR;SMILING FACE WITH OPEN:MOUTH,
MOUTH AND COLD SWEAT,MOUTH AND SMILING EYES,MOUTH AND TIGHTLY-CLOSED EYES;
SMILING FACE WITH SMILING:EYES,EYES AND HAND COVERING MOUTH,EYES AND THREE HEARTS;SOFT:HYPHEN,
ICE CREAM,SHELL FLOPPY DISK;SOUTH EAST:ARROW,ARROW TO CORNER,BLACK ARROW,DOUBLE ARROW,WHITE ARROW;
SOUTH WEST:ARROW,BLACK ARROW,DOUBLE ARROW,WHITE ARROW;SPEAKER WITH:CANCELLATION STROKE,
ONE SOUND WAVE,THREE SOUND WAVES;SPIRAL:CALENDAR PAD,NOTE PAD,SHELL;SQUARE:CAP,CUP,FOOT,
FOUR CORNERS,LOZENGE,ROOT;SQUARE IMAGE:OF,OF OR EQUAL TO,OF OR NOT EQUAL TO;SQUARE ORIGINAL:OF,
OF OR EQUAL TO,OF OR NOT EQUAL TO;SQUARE WITH:BOTTOM HALF BLACK,DIAGONAL CROSSHATCH FILL,
HORIZONTAL FILL,LEFT HALF BLACK,LOWER LEFT DIAGONAL HALF BLACK,LOWER RIGHT DIAGONAL HALF BLACK,
ORTHOGONAL CROSSHATCH FILL,RIGHT HALF BLACK,TOP HALF BLACK,VERTICAL FILL;
SQUARE WITH UPPER:LEFT DIAGONAL HALF BLACK,LEFT TO LOWER RIGHT FILL,RIGHT DIAGONAL HALF BLACK,
RIGHT TO LOWER LEFT FILL;SQUARED:DOT OPERATOR,KEY,LOGICAL AND,LOGICAL OR,MINUS,PLUS,SALTIRE,TIMES;
STAR:AND CRESCENT,EQUALS,OF DAVID,OPERATOR;SUBSCRIPT:EIGHT,EQUALS SIGN,FIVE,FOUR,LEFT PARENTHESIS,
MINUS,NINE,ONE,PLUS SIGN,RIGHT PARENTHESIS,SEVEN,SIX,THREE,TWO,ZERO;SUBSET:OF,OF OR EQUAL TO,
OF WITH NOT EQUAL TO;SUCCEEDS:BUT NOT EQUIVALENT TO,OR EQUAL TO,OR EQUIVALENT TO,UNDER RELATION;
SUPERSCRIPT:EIGHT,EQUALS SIGN,FIVE,FOUR,LATIN SMALL LETTER I,LATIN SMALL LETTER N,LEFT PARENTHESIS,
MINUS,NINE,ONE,PLUS SIGN,RIGHT PARENTHESIS,SEVEN,SIX,THREE,TWO,ZERO;SUPERSET:OF,OF OR EQUAL TO,
OF WITH NOT EQUAL TO,PRECEDING SOLIDUS;TELEPHONE:LOCATION SIGN,ON TOP OF MODEM,RECEIVER,
RECEIVER WITH PAGE,RECORDER,SIGN;THREE:BUTTON MOUSE,DIMENSIONAL ANGLE,DOT PUNCTUATION,
LEFTWARDS ARROWS,LINES CONVERGING LEFT,LINES CONVERGING RIGHT,NETWORKED COMPUTERS,
RIGHTWARDS ARROWS,SPEECH BUBBLES;THREE RAYS:ABOVE,BELOW,LEFT,RIGHT;TOP:CURLY BRACKET,HALF INTEGRAL,
HAT,LEFT CORNER,LEFT CROP,PARENTHESIS,RIGHT CORNER,RIGHT CROP,SQUARE BRACKET,
TORTOISE SHELL BRACKET,WITH UPWARDS ARROW ABOVE;TRIANGULAR:BULLET,FLAG ON POST,RULER;
TRIGRAM FOR:EARTH,FIRE,HEAVEN,LAKE,MOUNTAIN,THUNDER,WATER,WIND;TRIPLE:INTEGRAL,PRIME,TILDE,
VERTICAL BAR RIGHT TURNSTILE;TURNED:AMPERSAND,BLACK SHOGI PIECE,CAPITAL F,DIGIT THREE,DIGIT TWO,
GREEK SMALL LETTER IOTA,NOT SIGN,OK HAND SIGN,SMALL F,WHITE SHOGI PIECE;
TURNED SANS-SERIF CAPITAL:G,L,Y;TWO:ASTERISKS ALIGNED VERTICALLY,BUTTON MOUSE,DOT LEADER,
DOT PUNCTUATION,HEARTS,MEN HOLDING HANDS,SPEECH BUBBLES,WOMEN HOLDING HANDS;UP:ARROWHEAD,
ARROWHEAD BETWEEN TWO HORIZONTAL BARS,RIGHT DIAGONAL ELLIPSIS,TACK,TACK WITH CIRCLE ABOVE;
UP DOWN:ARROW,ARROW WITH BASE,BLACK ARROW,DOUBLE ARROW,WHITE ARROW;UP-POINTING:AIRPLANE,
MILITARY AIRPLANE,RED TRIANGLE,SMALL AIRPLANE,SMALL RED TRIANGLE,TRIANGLE WITH LEFT HALF BLACK,
TRIANGLE WITH RIGHT HALF BLACK;UPPER:BLADE SCISSORS,ONE EIGHTH BLOCK;UPPER HALF:BLOCK,CIRCLE,
INVERSE WHITE CIRCLE;UPPER LEFT:CORNER WITH DOT,OR LOWER RIGHT CURLY BRACKET SECTION,
QUADRANT CIRCULAR ARC,TRIANGLE;UPPER RIGHT:DROP-SHADOWED WHITE SQUARE,
OR LOWER LEFT CURLY BRACKET SECTION,PENCIL,QUADRANT CIRCULAR ARC,SHADOWED WHITE CIRCLE,
SHADOWED WHITE SQUARE,TRIANGLE;UPWARDS:ARROW,BLACK ARROW,DASHED ARROW,DOUBLE ARROW,
HARPOON WITH BARB LEFTWARDS,HARPOON WITH BARB RIGHTWARDS,PAIRED ARROWS,QUADRUPLE ARROW,
TWO HEADED ARROW;UPWARDS ARROW:FROM BAR,LEFTWARDS OF DOWNWARDS ARROW;
UPWARDS ARROW WITH:DOUBLE STROKE,TIP LEFTWARDS,TIP RIGHTWARDS;UPWARDS WHITE:ARROW,DOUBLE ARROW,
DOUBLE ARROW ON PEDESTAL;UPWARDS WHITE ARROW:FROM BAR;UPWARDS WHITE ARROW ON:PEDESTAL,
PEDESTAL WITH HORIZONTAL BAR,PEDESTAL WITH VERTICAL BAR;VERTICAL:BAR WITH HORIZONTAL STROKE,
ELLIPSIS,FOUR DOTS,IDEOGRAPHIC ITERATION MARK,LINE,LINE EXTENSION,LINE WITH MIDDLE DOT,
MALE WITH STROKE SIGN,TABULATION,TRAFFIC LIGHT;VERTICAL KANA REPEAT:MARK,MARK LOWER HALF,
MARK UPPER HALF,WITH VOICED SOUND MARK,WITH VOICED SOUND MARK UPPER HALF;
VULGAR FRACTION:FIVE EIGHTHS,FIVE SIXTHS,FOUR FIFTHS,SEVEN EIGHTHS,THREE EIGHTHS,THREE FIFTHS,
THREE QUARTERS,TWO FIFTHS,TWO THIRDS,ZERO THIRDS;VULGAR FRACTION ONE:EIGHTH,FIFTH,HALF,NINTH,
QUARTER,SEVENTH,SIXTH,TENTH,THIRD;WATER:BUFFALO,CLOSET,POLO,WAVE;WAVING:BLACK FLAG,HAND SIGN,
WHITE FLAG;WHITE:BULLET,CIRCLE,CLUB SUIT,DIAMOND,DOWN-POINTING SMALL TRIANGLE,
DOWN-POINTING TRIANGLE,DRAUGHTS KING,DRAUGHTS MAN,EXCLAMATION MARK ORNAMENT,FLAG,
FLAG WITH HORIZONTAL MIDDLE BLACK STRIPE,FLORETTE,FLOWER,FOUR POINTED STAR,FROWNING FACE,
HARD SHELL FLOPPY DISK,HEART,HEART SUIT,HEAVY CHECK MARK,HEXAGON,HORIZONTAL ELLIPSE,LARGE SQUARE,
LATIN CROSS,NIB,PARALLELOGRAM,PENNANT,PENTAGON,QUESTION MARK ORNAMENT,RECTANGLE,
RIGHT POINTING BACKHAND INDEX,RIGHT POINTING INDEX,SCISSORS,SHOGI PIECE,SMILING FACE,SPADE SUIT,
SQUARE,STAR,SUN,TELEPHONE,TOUCHTONE TELEPHONE,TRAPEZIUM,TRIANGLE CONTAINING SMALL WHITE TRIANGLE,
TWO-WAY LEFT WAY TRAFFIC,UP POINTING BACKHAND INDEX,UP POINTING INDEX,VERTICAL ELLIPSE,
VERTICAL RECTANGLE,VERY SMALL SQUARE;WHITE CHESS:BISHOP,KING,KNIGHT,PAWN,QUEEN,ROOK;
WHITE CIRCLE WITH:DOT RIGHT,LOWER LEFT QUADRANT,LOWER RIGHT QUADRANT,TWO DOTS,UPPER LEFT QUADRANT,
UPPER RIGHT QUADRANT;WHITE CONCAVE-SIDED:DIAMOND,DIAMOND WITH LEFTWARDS TICK,
DIAMOND WITH RIGHTWARDS TICK;WHITE DIAMOND:CONTAINING BLACK SMALL DIAMOND,IN SQUARE,SUIT,
WITH CENTRED DOT;WHITE DOWN POINTING:BACKHAND INDEX,INDEX,LEFT HAND INDEX;WHITE LEFT:LANE MERGE,
POINTING BACKHAND INDEX,POINTING INDEX;WHITE LEFT-POINTING:POINTER,SMALL TRIANGLE,TRIANGLE;
WHITE MEDIUM:DIAMOND,LOZENGE,SMALL SQUARE,SQUARE,STAR;WHITE RIGHT-POINTING:PENTAGON,POINTER,
SMALL TRIANGLE,TRIANGLE;WHITE SMALL:LOZENGE,SQUARE,STAR;WHITE SQUARE:BUTTON,
CONTAINING BLACK SMALL SQUARE;WHITE SQUARE WITH:CENTRE VERTICAL LINE,LEFTWARDS TICK,
LOWER LEFT QUADRANT,LOWER RIGHT QUADRANT,RIGHTWARDS TICK,ROUNDED CORNERS,UPPER LEFT QUADRANT,
UPPER RIGHT QUADRANT,VERTICAL BISECTING LINE;WHITE SUN:BEHIND CLOUD,BEHIND CLOUD WITH RAIN,
WITH RAYS,WITH SMALL CLOUD;WHITE UP-POINTING:SMALL TRIANGLE,TRIANGLE,TRIANGLE WITH DOT;
WOMANS:BOOTS,CLOTHES,HAT,SANDAL;ZERO WIDTH:JOINER,NO-BREAK SPACE,NON-JOINER,SPACE"

/-- Whether a group, the start and the ends of its names, has the name. -/
def hasCharacterName (name head : Text) (ends : Text) : Bool :=
  let tail := if head.isEmpty then some name else Text.dropHead? (head ++ [' ']) name
  tail.any (Text.splitOn ',' ends).contains

/-- Whether a character has the name. -/
def isCharacterName (name : Text) : Bool :=
  let name := name.map Char.toUpper
  (Text.splitOn ';' (characterNames.toList.filter (· ≠ '\n'))).any fun group =>
    (Text.cutFirst ':' group).any fun (head, ends) => hasCharacterName name head ends

end SchemaDiagram
