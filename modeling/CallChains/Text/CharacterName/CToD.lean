/-!
The names of characters that start with the letters from C to D.
-/

namespace CallChains.Text.CharacterName

def linesCToD : List String :=
  [
    "0CACTUS,0CADA UNA,0CADUCEUS,0CALENDAR,0CALL ME HAND,0CAMERA,1WITH FLASH",
    "0CAMPING,0CAN,0CANADIAN SYLLABICS A,2AA,2AAI,2AAY,2AI,2AIVILIK B,2AN",
    "2ATHAPASCAN M,3S,2AY,2BEAVER DENE L,4R,2BIBLE-CREE Y,2BLACKFOOT A,3E,3I",
    "3KA,3KE,3KI,3KO,3NA,3NE,3NI,3NO,3O,3S,3W,3WA,3WE,3WI,3WO,2C,2CA,2CAA",
    "2CAAI,2CARRIER CHA,3CHE,3CHEE,3CHI,3CHO,3CHU,3DEE,3DENE GEE,3DENTAL S,3DI",
    "3DLA,3DLE,3DLEE,3DLI,3DLO,3DLU,3DZA,3DZE,3DZEE,3DZI,3DZO,3DZU,3EE,3GA",
    "3GAA,3GE,3GEE,3GHA,3GHE,3GHEE,3GHI,3GHO,3GHU,3GI,3GO,3GU,3GWA,3GWU,3H",
    "3HEE,3HI,3HWA,3HWE,3HWEE,3HWI,3HWO,3HWU,3I,3INITIAL Z,3JA,3JE,3JEE,3JI",
    "3JJA,3JJE,3JJEE,3JJI,3JJO,3JJU,3JO,3JU,3JWA,3KHA,3KHE,3KHEE,3KHI,3KHO",
    "3KHU,3KK,3KKA,3KKE,3KKEE,3KKI,3KKO,3KKU,3LA,3LE,3LEE,3LHA,3LHE,3LHEE,3LHI",
    "3LHO,3LHU,3LI,3LO,3LU,3MA,3ME,3MEE,3MI,3MO,3MU,3NA,3NE,3NEE,3NG,3NI,3NO",
    "3NU,3P,3PA,3PE,3PEE,3PI,3PO,3PU,3RA,3RE,3REE,3RI,3RO,3RU,3SA,3SE,3SEE,3SH",
    "3SHA,3SHE,3SHEE,3SHI,3SHO,3SHU,3SI,3SO,3SU,3THA,3THE,3THEE,3THI,3THO,3THU",
    "3TLA,3TLE,3TLEE,3TLHA,3TLHE,3TLHEE,3TLHI,3TLHO,3TLHU,3TLI,3TLO,3TLU,3TSA",
    "3TSE,3TSEE,3TSI,3TSO,3TSU,3TTA,3TTE,3TTEE,3TTI,3TTO,3TTSA,3TTSE,3TTSEE",
    "3TTSI,3TTSO,3TTSU,3TTU,3WA,3WE,3WEE,3WI,3WO,3WU,3YA,3YE,3YEE,3YI,3YO,3YU",
    "3Z,3ZA,3ZE,3ZEE,3ZI,3ZO,3ZU,2CE,2CHI SIGN,2CI,2CII,2CO,2COO,2CWA,2CWAA",
    "2CWE,2CWI,2CWII,2CWO,2CWOO,2E,2EASTERN W,2EN,2F,2FA,2FAA,2FAAI,2FE,2FI",
    "2FII,2FINAL ACUTE,3BOTTOM HALF RING,3DOUBLE ACUTE,4SHORT VERTICAL STROKES",
    "3DOWN TACK,3GRAVE,3MIDDLE DOT,3PLUS,3RAISED DOT,3RIGHT HALF RING,3RING",
    "3SHORT HORIZONTAL STROKE,3SMALL RING,3TOP HALF RING,2FO,2FOO,2FULL STOP",
    "2FWAA,2GLOTTAL STOP,2HK,2HYPHEN,2I,2II,2IN,2K,2KA,2KAA,2KAAI,2KAY,2KE,2KI",
    "2KII,2KO,2KOO,2KW,2KWA,2KWAA,2KWAY,2KWE,2KWI,2KWII,2KWO,2KWOO,2L,2LA,2LAA",
    "2LAAI,2LAY,2LE,2LH,2LHA,2LHAA,2LHI,2LHII,2LHO,2LHOO,2LI,2LII,2LO,2LOO",
    "2LWA,2LWAA,2LWE,2LWI,2LWII,2LWO,2LWOO,2M,2MA,2MAA,2MAAI,2MAY,2ME",
    "2MEDIAL L,3R,2MH,2MI,2MII,2MO,2MOO,2MOOSE-CREE SK,2MWA,2MWAA,2MWE,2MWI",
    "2MWII,2MWO,2MWOO,2N,2N-CREE THE,3THI,3THII,2NA,2NAA,2NAAI,2NASKAPI CWAA",
    "3KWAA,3MWAA,3NWAA,3S-W,3SCWA,3SKW,3SKWA,3SPWA,3STWA,3SWAA,3TWAA,3WAA,3WOO",
    "3YWAA,2NATTILIK HA,3HAA,3HI,3HII,3HO,3HOO,3SHRA,3SHRAA,3SHRI,3SHRII,3SHRO",
    "3SHROO,2NAY,2NE,2NG,2NGA,2NGAA,2NGAAI,2NGAI,2NGI,2NGII,2NGO,2NGOO,2NH,2NI",
    "2NII,2NNG,2NNGA,2NNGAA,2NNGI,2NNGII,2NNGO,2NNGOO,2NO,2NOO,2NOY,2NUNAVIK H",
    "3HA,3HAA,3HE,3HI,3HII,3HO,3HOO,2NUNAVUT H,2NWA,2NWAA,2NWE,2NWI,2NWII,2NWO",
    "2NWOO,2O,2OJIBWAY C,3K,3M,3N,3NWI,3NWII,3NWO,3NWOO,3P,3S,3SH,3T,2ON,2OO",
    "2OY,2P,2PA,2PAA,2PAAI,2PAY,2PE,2PI,2PII,2PO,2POO,2POY,2PWA,2PWAA,2PWE",
    "2PWI,2PWII,2PWO,2PWOO,2PWOY,2Q,2QA,2QAA,2QAAI,2QAI,2QI,2QII,2QO,2QOO,2R",
    "2R-CREE RE,3RWE,2RA,2RAA,2RAAI,2RAY,2RE,2RI,2RII,2RO,2ROO,2RWA,2RWAA",
    "2RWEE,2RWI,2RWII,2RWO,2RWOO,2S,2SA,2SAA,2SAAI,2SAY,2SAYISI HA,3HE,3HI,3HO",
    "3HOO,3JI,3JU,3JUU,3M,3SHA,3SHE,3SHI,3SHO,3SHOO,3SHWE,3TH,3YI,2SE,2SH,2SHA",
    "2SHAA,2SHAY,2SHE,2SHI,2SHII,2SHO,2SHOO,2SHOY,2SHWA,2SHWAA,2SHWE,2SHWI",
    "2SHWII,2SHWO,2SHWOO,2SHWOY,2SI,2SII,2SO,2SOO,2SOUTH-SLAVEY KAH,3KEH,3KIH",
    "3KOH,2SOY,2SPA,2SPE,2SPI,2SPO,2SW,2SWA,2SWAA,2SWE,2SWI,2SWII,2SWO,2SWOO",
    "2T,2TA,2TAA,2TAAI,2TAY,2TE,2TH,2TH-CREE TH,3THA,3THAA,3THE,3THI,3THII",
    "3THO,3THOO,2THA,2THAA,2THE,2THI,2THII,2THO,2THOO,2THWA,2THWAA,2THWE,2TI",
    "2TII,2TLHA,2TLHE,2TLHI,2TLHO,2TLHOO,2TLHWE,2TO,2TOO,2TTA,2TTE,2TTH,2TTHA",
    "2TTHAA,2TTHE,2TTHI,2TTHO,2TTHOO,2TTHWE,2TTI,2TTO,2TWA,2TWAA,2TWE,2TWI",
    "2TWII,2TWO,2TWOO,2TYA,2TYE,2TYI,2TYO,2WA,2WAA,2WAY,2WE,2WEST-CREE CWA",
    "3CWAA,3CWE,3CWI,3CWII,3CWO,3CWOO,3FWAA,3KWA,3KWAA,3KWE,3KWI,3KWII,3KWO",
    "3KWOO,3L,3LA,3LAA,3LE,3LO,3LOO,3LWA,3LWAA,3LWE,3LWI,3LWII,3LWO,3LWOO,3M",
    "3MWA,3MWAA,3MWE,3MWI,3MWII,3MWO,3MWOO,3NWA,3NWAA,3NWE,3P,3PWA,3PWAA,3PWE",
    "3PWI,3PWII,3PWO,3PWOO,3R,3RA,3RE,3RI,3RO,3RWAA,3SHWA,3SHWAA,3SHWE,3SHWI",
    "3SHWII,3SHWO,3SHWOO,3SWA,3SWAA,3SWE,3SWI,3SWII,3SWO,3SWOO,3THWAA,3TWA",
    "3TWAA,3TWE,3TWI,3TWII,3TWO,3TWOO,3WA,3WAA,3WE,3WI,3WII,3WO,3WOO,3Y,3YWA",
    "3YWAA,3YWE,3YWI,3YWII,3YWO,3YWOO,2WESTERN W,2WI,2WII,2WO,2WOO",
    "2WOODS-CREE FINAL TH,3TH,3THA,3THE,3THI,3THO,3THWA,3THWAA,3THWEE,3THWI",
    "3THWII,3THWO,3THWOO,2Y,2Y-CREE COO,3KOO,3LOO,3MOO,3NOO,3OO,3POO,3PWAA",
    "3SOO,3TOO,3W,3YOO,2YA,2YAA,2YAAI,2YAY,2YE,2YI,2YII,2YO,2YOO,2YOY,2YWA",
    "2YWAA,2YWE,2YWI,2YWII,2YWO,2YWOO,0CANCEL,1CHARACTER,1TAG,0CANCELLATION X",
    "0CANCER,0CANDLE,0CANDY,0CANNED FOOD,0CANOE,0CAPITULUM,0CAPRICORN",
    "0CAR SLIDING,0CARD FILE BOX,1INDEX,2DIVIDERS,0CARE OF,0CARET",
    "1INSERTION POINT,0CARIAN LETTER A,2A2,2B,2C-18,2C-39,2D,2D2,2E,2E2,2G,2G2",
    "2I,2II,2K,2K2,2L,2LD,2LD2,2M,2MB,2MB2,2MB3,2MB4,2N,2ND,2NG,2NN,2O,2P,2P2",
    "2Q,2R,2RR,2S,2SH,2SH2,2SS,2ST,2ST2,2T,2TT,2TT2,2U,2UU,2UUU,2UUU2,2UUU3",
    "2UUUU,2X,0CARON,0CAROUSEL HORSE,0CARP STREAMER,0CARPENTRY SAW",
    "0CARRIAGE RETURN,0CARROT,0CASTLE,0CAT,1FACE,2WITH TEARS OF JOY,3WRY SMILE",
    "0CAUCASIAN ALBANIAN CITATION MARK,2LETTER ALT,3AOR,3BET,3CAR,3CAYN,3CHA",
    "3CHAT,3CHI,3CHOY,3CYAW,3CYAY,3DAT,3DYAN,3DZAY,3DZYAY,3EB,3EYN,3FAM,3GHEYS",
    "3GIM,3HEYT,3INYA,3IRB,3IWN,3JAYN,3JHOX,3KAR,3KIW,3LAN,3LYIT,3MAQ,3NOWC",
    "3ON,3PEN,3PIWR,3QAR,3QAY,3RAT,3SEYK,3SHA,3SHAK,3SHOY,3TAS,3TIWR,3TYAY",
    "3VEYZ,3XEYN,3YAYD,3YOWD,3ZARL,3ZHA,3ZHIL,0CAUTION SIGN,0CCH,0CEDI SIGN",
    "0CEDILLA,0CELTIC CROSS,0CENT SIGN,0CENTRE LINE SYMBOL",
    "0CENTRELINE LOW LINE,1OVERLINE,0CERES,0CGJ,0CHAINS,0CHAIR,0CHAKMA AU MARK",
    "1DANDA,1DIGIT EIGHT,2FIVE,2FOUR,2NINE,2ONE,2SEVEN,2SIX,2THREE,2TWO,2ZERO",
    "1DOUBLE DANDA,1LETTER AA,2BAA,2BHAA,2CAA,2CHAA,2DAA,2DDAA,2DDHAA,2DHAA,2E",
    "2GAA,2GHAA,2HAA,2I,2JAA,2JHAA,2KAA,2KHAA,2LAA,2LHAA,2MAA,2NAA,2NGAA,2NNAA",
    "2NYAA,2PAA,2PHAA,2RAA,2SAA,2TAA,2THAA,2TTAA,2TTHAA,2U,2VAA,2WAA,2YAA",
    "2YYAA,1MAAYYAA,1O MARK,1QUESTION MARK,1SECTION MARK,1SIGN ANUSVARA",
    "2CANDRABINDU,2VISARGA,1VIRAMA,1VOWEL SIGN A,3AA,3AI,3AU,3E,3EI,3I,3II,3O",
    "3OI,3U,3UU,0CHAM CONSONANT SIGN FINAL H,4M,4NG,3LA,3RA,3WA,3YA",
    "1DIGIT EIGHT,2FIVE,2FOUR,2NINE,2ONE,2SEVEN,2SIX,2THREE,2TWO,2ZERO",
    "1LETTER A,2AI,2BA,2BBA,2BHA,2CHA,2CHHA,2DA,2DDA,2DHA,2E,2FINAL CH,3G,3K",
    "3L,3N,3NG,3P,3R,3SS,3T,3Y,2GA,2GHA,2HA,2I,2JA,2JHA,2KA,2KHA,2LA,2MA,2MUE",
    "2NA,2NGA,2NGUE,2NHA,2NHJA,2NHUE,2NUE,2O,2PA,2PHA,2PPA,2RA,2SA,2SSA,2TA",
    "2THA,2U,2VA,2YA,1PUNCTUATION DANDA,2DOUBLE DANDA,2SPIRAL,2TRIPLE DANDA",
    "1VOWEL SIGN AA,3AI,3AU,3EI,3I,3II,3O,3OE,3U,3UE,0CHARACTER TABULATION",
    "2SET,2WITH JUSTIFICATION,1TIE,0CHART WITH DOWNWARDS TREND,2UPWARDS TREND",
    "4AND YEN SIGN,0CHECK MARK,0CHECKER BOARD,2FILL,0CHEERING MEGAPHONE",
    "0CHEESE WEDGE,0CHEQUERED FLAG,0CHEROKEE LETTER A,2DA,2DE,2DI,2DLA,2DO,2DU",
    "2DV,2E,2GA,2GE,2GI,2GO,2GU,2GV,2HA,2HE,2HI,2HNA,2HO,2HU,2HV,2I,2KA,2LA",
    "2LE,2LI,2LO,2LU,2LV,2MA,2ME,2MI,2MO,2MU,2MV,2NA,2NAH,2NE,2NI,2NO,2NU,2NV",
    "2O,2QUA,2QUE,2QUI,2QUO,2QUU,2QUV,2S,2SA,2SE,2SI,2SO,2SU,2SV,2TA,2TE,2TI",
    "2TLA,2TLE,2TLI,2TLO,2TLU,2TLV,2TSA,2TSE,2TSI,2TSO,2TSU,2TSV,2U,2V,2WA,2WE",
    "2WI,2WO,2WU,2WV,2YA,2YE,2YI,2YO,2YU,2YV,1SMALL LETTER A,3DA,3DE,3DI,3DLA",
    "3DO,3DU,3DV,3E,3GA,3GE,3GI,3GO,3GU,3GV,3HA,3HE,3HI,3HNA,3HO,3HU,3HV,3I",
    "3KA,3LA,3LE,3LI,3LO,3LU,3LV,3MA,3ME,3MI,3MO,3MU,3MV,3NA,3NAH,3NE,3NI,3NO",
    "3NU,3NV,3O,3QUA,3QUE,3QUI,3QUO,3QUU,3QUV,3S,3SA,3SE,3SI,3SO,3SU,3SV,3TA",
    "3TE,3TI,3TLA,3TLE,3TLI,3TLO,3TLU,3TLV,3TSA,3TSE,3TSI,3TSO,3TSU,3TSV,3U,3V",
    "3WA,3WE,3WI,3WO,3WU,3WV,3YA,3YE,3YI,3YO,3YU,3YV,0CHERRIES,0CHERRY BLOSSOM",
    "0CHESTNUT,0CHI RHO,0CHICKEN,0CHILD,0CHILDREN CROSSING,0CHIPMUNK,0CHIRON",
    "0CHOCOLATE BAR,0CHOPSTICKS,0CHORASMIAN LETTER ALEPH,2AYIN,2BETH",
    "2CURLED WAW,2DALETH,2GIMEL,2HE,2HETH,2KAPH,2LAMEDH,2MEM,2NUN,2PE,2RESH",
    "2SAMEKH,2SHIN,2SMALL ALEPH,2TAW,2WAW,2YODH,2ZAYIN,1NUMBER FOUR,2ONE",
    "3HUNDRED,2TEN,2THREE,2TWENTY,2TWO,0CHRISTMAS TREE,0CHURCH,0CINEMA",
    "0CIRCLE DIVIDED BY HORIZONTAL BAR AND TOP HALF DIVIDED BY VERTICAL BAR",
    "1WITH ALL BUT UPPER LEFT QUADRANT BLACK,2HORIZONTAL BAR,2LEFT HALF BLACK",
    "2LOWER HALF BLACK,2RIGHT HALF BLACK,2SMALL CIRCLE TO THE RIGHT",
    "2SUPERIMPOSED X,2TWO HORIZONTAL STROKES TO THE RIGHT,2UPPER HALF BLACK",
    "3RIGHT QUADRANT BLACK,2VERTICAL FILL,0CIRCLED ANTICLOCKWISE ARROW",
    "1ANTICLOCKWISE-ROTATED DIVISION SIGN,1ASTERISK OPERATOR,1BOLD X,1BULLET",
    "1C WITH OVERLAID BACKSLASH,1CC,1CD,1CROSS FORMEE,3WITH FOUR DOTS",
    "4TWO DOTS,2POMMEE,1CROSSING LANES,1DASH,1DIGIT EIGHT,2FIVE,2FOUR,2NINE",
    "2ONE,2SEVEN,2SIX,2THREE,2TWO,2ZERO,1DIVISION SIGN,2SLASH",
    "1DOLLAR SIGN WITH OVERLAID BACKSLASH,1DOT OPERATOR,1EQUALS,1GREATER-THAN",
    "1HANGUL CHIEUCH,3A,2CIEUC,3A,2HIEUH,3A,2IEUNG,3A,3U,2KHIEUKH,3A,2KIYEOK",
    "3A,2MIEUM,3A,2NIEUN,3A,2PHIEUPH,3A,2PIEUP,3A,2RIEUL,3A,2SIOS,3A,2THIEUTH",
    "3A,2TIKEUT,3A,1HEAVY WHITE RIGHTWARDS ARROW,1HORIZONTAL BAR WITH NOTCH",
    "1HUMAN FIGURE,1IDEOGRAPH ACCEPT,2ADVANTAGE,2ALLIANCE,2ATTENTION,2CENTRE",
    "2CONGRATULATION,2COPY,2CORRECT,2EARTH,2EIGHT,2ENTERPRISE,2EXCELLENT",
    "2FEMALE,2FINANCIAL,2FIRE,2FIVE,2FOUR,2HAVE,2HIGH,2ITEM,2KINDERGARTEN",
    "2KOTO,2LABOR,2LEFT,2LOW,2MALE,2MEDICINE,2METAL,2MOON,2NAME,2NIGHT,2NINE",
    "2ONE,2PRINT,2QUESTION,2RELIGION,2RESOURCE,2REST,2RIGHT,2SCHOOL,2SECRET",
    "2SEVEN,2SIX,2SOCIETY,2SPECIAL,2STOCK,2STUDY,2SUITABLE,2SUN,2SUPERVISE",
    "2TEN,2THREE,2TWO,2WATER,2WOOD,1INFORMATION SOURCE",
    "1ITALIC LATIN CAPITAL LETTER C,5R,1KATAKANA A,2E,2HA,2HE,2HI,2HO,2HU,2I",
    "2KA,2KE,2KI,2KO,2KU,2MA,2ME,2MI,2MO,2MU,2NA,2NE,2NI,2NO,2NU,2O,2RA,2RE",
    "2RI,2RO,2RU,2SA,2SE,2SI,2SO,2SU,2TA,2TE,2TI,2TO,2TU,2U,2WA,2WE,2WI,2WO",
    "2YA,2YO,2YU,1KOREAN CHARACTER CHAMKO,3JUEUI,1LATIN CAPITAL LETTER A,4B,4C",
    "4D,4E,4F,4G,4H,4I,4J,4K,4L,4M,4N,4O,4P,4Q,4R,4S,4T,4U,4V,4W,4X,4Y,4Z",
    "2SMALL LETTER A,4B,4C,4D,4E,4F,4G,4H,4I,4J,4K,4L,4M,4N,4O,4P,4Q,4R,4S,4T",
    "4U,4V,4W,4X,4Y,4Z,1LESS-THAN,1MINUS",
    "1MULTIPLICATION SIGN WITH CIRCUMFLEX ACCENT,1NUMBER EIGHTEEN",
    "2EIGHTY ON BLACK SQUARE,2ELEVEN,2FIFTEEN,2FIFTY,3ON BLACK SQUARE,2FORTY",
    "3EIGHT,3FIVE,3FOUR,3NINE,3ON BLACK SQUARE,3ONE,3SEVEN,3SIX,3THREE,3TWO",
    "2FOURTEEN,2NINETEEN,2SEVENTEEN,2SEVENTY ON BLACK SQUARE,2SIXTEEN",
    "2SIXTY ON BLACK SQUARE,2TEN,3ON BLACK SQUARE,2THIRTEEN,2THIRTY,3EIGHT",
    "3FIVE,3FOUR,3NINE,3ON BLACK SQUARE,3ONE,3SEVEN,3SIX,3THREE,3TWO,2TWELVE",
    "2TWENTY,3EIGHT,3FIVE,3FOUR,3NINE,3ON BLACK SQUARE,3ONE,3SEVEN,3SIX,3THREE",
    "3TWO,1OPEN CENTRE EIGHT POINTED STAR,1PARALLEL,1PERPENDICULAR,1PLUS",
    "1POSTAL MARK,1REVERSE SOLIDUS,1RING OPERATOR,1SQUARE,1TIMES,1TRIANGLE",
    "2DOWN,1VERTICAL BAR,1WHITE BULLET,2STAR,1WZ,1X,1ZERO WITH SLASH",
    "0CIRCULATION FUNCTION,0CIRCUMFLEX ACCENT,0CIRCUS TENT,0CITYSCAPE,1AT DUSK",
    "0CJK RADICAL BAMBOO,2BLUE,2BOLT OF CLOTH,2BONE,2BOX,2BRUSH ONE,3TWO",
    "2C-SIMPLIFIED BIRD,3CART,3DRAGON,3EAT,3EVEN,3FISH,3FLY,3FROG,3GATE,3GOLD",
    "3HORSE,3LEAF,3LONG,3SALT,3SEE,3SHELL,3SILK,3SPEECH,3TANNED LEATHER,3TOOTH",
    "3TURTLE,3WIND,2CHOKE,2CITY,2CIVILIAN,2CLIFF,2CLOTHES,2COW,2DEATH",
    "2DIVINATION,2DOG,2EAT ONE,3THREE,3TWO,2EWE,2EYE,2FIRE,2FOOT,2GHOST",
    "2GRASS ONE,3THREE,3TWO,2HAND,2HEAD,2HEART ONE,3TWO,2HORN",
    "2J-SIMPLIFIED DRAGON,3EVEN,3TOOTH,3TURTLE,2JADE,2KNIFE ONE,3TWO",
    "2LAME FOUR,3ONE,3THREE,3TWO,2LONG ONE,3TWO,2MEAT,2MESH,2MOON,2MORTAR",
    "2MOTHER,2MOUND ONE,3TWO,2NET FOUR,3ONE,3THREE,3TWO,2OLD,2PAW ONE,3TWO",
    "2PERSON,2RAIN,2RAM,2RAP,2REPEAT,2SEAL,2SECOND ONE,3THREE,3TWO,2SHEEP",
    "2SILK,2SIMPLIFIED HALF TREE TRUNK,3HORN,3WALK,3WHEAT,3YELLOW,2SMALL ONE",
    "3TWO,2SNAKE,2SNOUT ONE,3TWO,2SPIRIT ONE,3TWO,2SUN,2TABLE,2THREAD,2TIGER",
    "2TURTLE,2WALK ONE,3TWO,2WATER ONE,3TWO,2WEST ONE,3TWO,1STROKE BXG,2D,2H",
    "2HG,2HP,2HPWG,2HXWG,2HZ,2HZG,2HZT,2HZW,2HZWG,2HZZ,2HZZP,2HZZZ,2HZZZG,2N",
    "2P,2PD,2PG,2PZ,2Q,2S,2SG,2SP,2ST,2SW,2SWG,2SWZ,2SZ,2SZWG,2SZZ,2T,2TN,2WG",
    "2XG,0CLAMSHELL MOBILE PHONE,0CLAPPER BOARD,0CLAPPING HANDS SIGN",
    "0CLASSICAL BUILDING,0CLEAR SCREEN SYMBOL,0CLINKING BEER MUGS,1GLASSES",
    "0CLIPBOARD,0CLOCK FACE EIGHT OCLOCK,2EIGHT-THIRTY,2ELEVEN OCLOCK",
    "2ELEVEN-THIRTY,2FIVE OCLOCK,2FIVE-THIRTY,2FOUR OCLOCK,2FOUR-THIRTY",
    "2NINE OCLOCK,2NINE-THIRTY,2ONE OCLOCK,2ONE-THIRTY,2SEVEN OCLOCK",
    "2SEVEN-THIRTY,2SIX OCLOCK,2SIX-THIRTY,2TEN OCLOCK,2TEN-THIRTY",
    "2THREE OCLOCK,2THREE-THIRTY,2TWELVE OCLOCK,2TWELVE-THIRTY,2TWO OCLOCK",
    "2TWO-THIRTY,0CLOCKWISE CLOSED CIRCLE ARROW,1CONTOUR INTEGRAL",
    "1DOWNWARDS AND UPWARDS OPEN CIRCLE ARROWS,1GAPPED CIRCLE ARROW,1INTEGRAL",
    "1OPEN CIRCLE ARROW,1RIGHT AND LEFT SEMICIRCLE ARROWS",
    "1RIGHTWARDS AND LEFTWARDS OPEN CIRCLE ARROWS,7WITH CIRCLED ONE OVERLAY",
    "1TOP SEMICIRCLE ARROW,1TRIANGLE-HEADED OPEN CIRCLE ARROW,0CLOSE UP",
    "0CLOSED BOOK,1INTERSECTION WITH SERIFS,1LOCK WITH KEY",
    "1MAILBOX WITH LOWERED FLAG,3RAISED FLAG,1SUBSET,2OR EQUAL TO,1SUPERSET",
    "2OR EQUAL TO,1UMBRELLA,1UNION WITH SERIFS,4AND SMASH PRODUCT,0CLOUD",
    "1WITH LIGHTNING,2RAIN,2SNOW,2TORNADO,0CLOWN FACE,0COAT,0COCKROACH",
    "0COCKTAIL GLASS,0COCONUT,0COFFIN,0COIN,0COLLISION SYMBOL,0COLON,1EQUALS",
    "1SIGN,0COMBINING ACUTE ACCENT,3BELOW,2TONE MARK,1ACUTE-GRAVE-ACUTE",
    "1ACUTE-MACRON,1ALMOST EQUAL TO ABOVE,4BELOW,1ANNUITY SYMBOL",
    "1ANTICLOCKWISE ARROW ABOVE,2RING OVERLAY,1ASTERISK ABOVE,2BELOW",
    "1BINDU BELOW,1BREVE,2BELOW,1BREVE-MACRON,1BRIDGE ABOVE,2BELOW",
    "1CANDRABINDU,1CARON,2BELOW,1CEDILLA,1CIRCUMFLEX ACCENT,3BELOW",
    "1CLOCKWISE ARROW ABOVE,2RING OVERLAY,1COMMA ABOVE,3RIGHT,2BELOW",
    "1CONJOINING MACRON,3BELOW,1CYRILLIC DASIA PNEUMATA,2HUNDRED MILLIONS SIGN",
    "3THOUSANDS SIGN,2KAVYKA,2LETTER A,3BE,3BIG YUS,3CHE,3DE,3DJERV,3EF,3EL",
    "3EM,3EN,3ER,3ES,3ES-TE,3FITA,3GHE,3HA,3HARD SIGN,3I,3IE,3IOTIFIED A",
    "4BIG YUS,4E,3KA,3LITTLE YUS,3MONOGRAPH UK,3O,3OMEGA,3PE,3SHA,3SHCHA",
    "3SOFT SIGN,3TE,3TSE,3U,3UKRAINIAN IE,3VE,3YAT,3YERU,3YI,3YU,3ZE,3ZHE",
    "2MILLIONS SIGN,2PALATALIZATION,2PAYEROK,2POKRYTIE,2PSILI PNEUMATA",
    "2TEN MILLIONS SIGN,2THOUSAND MILLIONS SIGN,2TITLO,3LEFT HALF,3RIGHT HALF",
    "2VZMET,1DELETION MARK,1DEVANAGARI DIGIT EIGHT,3FIVE,3FOUR,3NINE,3ONE",
    "3SEVEN,3SIX,3THREE,3TWO,3ZERO,2LETTER A,3KA,3NA,3PA,3RA,3U,3VI",
    "2SIGN AVAGRAHA,1DIAERESIS,2BELOW,1DIAERESIS-RING,1DOT ABOVE,3LEFT,3RIGHT",
    "2BELOW,3LEFT,1DOTTED ACUTE ACCENT,2GRAVE ACCENT,1DOUBLE ACUTE ACCENT",
    "2BREVE,3BELOW,2CIRCUMFLEX ABOVE,2GRAVE ACCENT,2INVERTED BREVE,4BELOW",
    "2LOW LINE,2MACRON,3BELOW,2OPEN MARK BELOW,2OVERLINE,2PARENTHESES ABOVE",
    "2PLUS SIGN ABOVE,4BELOW,2RIGHTWARDS ARROW BELOW,2RING BELOW,2TILDE",
    "3LEFT HALF,3RIGHT HALF,2VERTICAL LINE ABOVE,4BELOW,3STROKE OVERLAY",
    "1DOUBLED CIRCUMFLEX ACCENT,1DOWN TACK BELOW,1DOWNWARDS ARROW",
    "1ENCLOSING CIRCLE,3BACKSLASH,2DIAMOND,2KEYCAP,2SCREEN,2SQUARE",
    "2UPWARD POINTING TRIANGLE,1EQUALS SIGN BELOW,1FERMATA,1FOUR DOTS ABOVE",
    "1GLAGOLITIC LETTER AZU,3BIG YUS,3BUKY,3CHRIVI,3DJERVI,3DOBRO,3FITA,3FRITU",
    "3GLAGOLI,3HERU,3I,3INITIAL IZHE,3IOTATED BIG YUS,4SMALL YUS,3IZHE,3KAKO",
    "3LJUDIJE,3MYSLITE,3NASHI,3ONU,3POKOJI,3RITSI,3SHA,3SHTA,3SLOVO,3SMALL YUS",
    "3TSI,3TVRIDO,3UKU,3VEDE,3YATI,3YERI,3YERU,3YESTU,3YO,3YU,3ZEMLJA,3ZHIVETE",
    "1GRANTHA DIGIT FIVE,3FOUR,3ONE,3SIX,3THREE,3TWO,3ZERO,2LETTER A,3KA,3NA",
    "3PA,3VI,1GRAPHEME JOINER,1GRAVE ACCENT,3BELOW,2TONE MARK",
    "1GRAVE-ACUTE-GRAVE,1GRAVE-MACRON,1GREEK DIALYTIKA TONOS,2KORONIS",
    "2MUSICAL PENTASEME,3TETRASEME,3TRISEME,2PERISPOMENI,2YPOGEGRAMMENI",
    "1HOMOTHETIC ABOVE,1HOOK ABOVE,1HORN,1INFINITY,1INVERTED BREVE,3BELOW",
    "2BRIDGE BELOW,2DOUBLE ARCH ABOVE,4BELOW,1IS BELOW",
    "1KATAKANA-HIRAGANA SEMI-VOICED SOUND MARK,2VOICED SOUND MARK",
    "1KAVYKA ABOVE LEFT,3RIGHT,1LATIN LETTER SMALL CAPITAL G,5L,5M,5N,5R",
    "2SMALL LETTER A,5WITH DIAERESIS,4AE,4ALPHA,4AO,4AV,4B,4BETA,4C,5CEDILLA",
    "4D,4E,4ESH,4ETH,4F,4FLATTENED OPEN A ABOVE,4G,4H,4I,4INSULAR D,5G,5R,5T",
    "4K,4L,5WITH DOUBLE MIDDLE TILDE,4LONG S,4M,4N,4O,5WITH DIAERESIS",
    "6LIGHT CENTRALIZATION STROKE,4P,4R,5BELOW,5ROTUNDA,4S,4SCHWA,4T",
    "4TURNED W BELOW,4U,5WITH DIAERESIS,6LIGHT CENTRALIZATION STROKE,4V,4W",
    "5BELOW,4X,4Z,1LEFT ANGLE ABOVE,3BELOW,2ARROW ABOVE,3BELOW",
    "2ARROWHEAD ABOVE,3BELOW,2HALF RING ABOVE,4BELOW,2HARPOON ABOVE",
    "2PARENTHESIS ABOVE LEFT,3BELOW LEFT,2RIGHT ARROW ABOVE,4BELOW,2TACK BELOW",
    "1LEFTWARDS ARROW OVERLAY,2HARPOON WITH BARB DOWNWARDS,1LIGATURE LEFT HALF",
    "4BELOW,2RIGHT HALF,4BELOW,1LIGHT CENTRALIZATION STROKE BELOW",
    "1LONG DOUBLE SOLIDUS OVERLAY,2SOLIDUS OVERLAY,2STROKE OVERLAY",
    "2VERTICAL LINE OVERLAY,1LOW LINE,1MACRON,2BELOW,2LEFT HALF,4BELOW",
    "2RIGHT HALF,4BELOW,1MACRON-ACUTE,1MACRON-BREVE,1MACRON-GRAVE",
    "1MINUS SIGN BELOW,1NOT TILDE ABOVE,1NUMBER SIGN ABOVE,1OGONEK,2ABOVE",
    "1OLD PERMIC LETTER AN,4DOI,4NENOE,4SII,4ZATA,1OPEN MARK BELOW,1OVERLINE",
    "1PALATALIZED HOOK BELOW,1PARENTHESES ABOVE,2BELOW,2OVERLAY",
    "1PLUS SIGN ABOVE,3BELOW,1RETROFLEX HOOK BELOW,1REVERSE SOLIDUS OVERLAY",
    "1REVERSED COMMA ABOVE,1RIGHT ARROW ABOVE,3BELOW,2ARROWHEAD ABOVE",
    "3AND DOWN ARROWHEAD BELOW,4UP ARROWHEAD BELOW,3BELOW,2HALF RING ABOVE",
    "4BELOW,2HARPOON ABOVE,2PARENTHESIS ABOVE RIGHT,3BELOW RIGHT,2TACK BELOW",
    "1RIGHTWARDS HARPOON WITH BARB DOWNWARDS,1RING ABOVE,2BELOW,2OVERLAY",
    "1SEAGULL BELOW,1SHORT SOLIDUS OVERLAY,2STROKE OVERLAY",
    "2VERTICAL LINE OVERLAY,1SNAKE BELOW,1SQUARE BELOW,2BRACKETS ABOVE",
    "1STRONG CENTRALIZATION STROKE BELOW,1SUSPENSION MARK,1THREE DOTS ABOVE",
    "1TILDE,2BELOW,2LEFT HALF BELOW,2OVERLAY,2RIGHT HALF BELOW",
    "1TRIPLE ACUTE ACCENT,2DOT,2UNDERDOT,1TURNED COMMA ABOVE,1UP TACK ABOVE",
    "3BELOW,1UPWARDS ARROW BELOW,1UR ABOVE,1US ABOVE,1VERTICAL LINE ABOVE",
    "3BELOW,2TILDE,1WIDE BRIDGE ABOVE,2INVERTED BRIDGE BELOW",
    "1WIGGLY LINE BELOW,1X ABOVE,2BELOW,1X-X BELOW,1ZIGZAG ABOVE,2BELOW,0COMET",
    "0COMMA,0COMMERCIAL AT,1MINUS SIGN,0COMPASS,0COMPLEMENT",
    "0COMPOSITION SYMBOL,0COMPRESSION,0CONFETTI BALL,0CONFOUNDED FACE",
    "0CONFUSED FACE,0CONGRUENT WITH DOT ABOVE,0CONICAL TAPER,0CONJUNCTION",
    "0CONSTRUCTION SIGN,1WORKER,0CONTAINS AS MEMBER,2NORMAL SUBGROUP",
    "4OR EQUAL TO,1WITH LONG HORIZONTAL STROKE,2OVERBAR",
    "2VERTICAL BAR AT END OF HORIZONTAL STROKE,0CONTINUOUS UNDERLINE SYMBOL",
    "0CONTOUR INTEGRAL,0CONTROL KNOBS,1SEQUENCE INTRODUCER,0CONVENIENCE STORE",
    "0COOKED RICE,0COOKIE,0COOKING,0COPTIC CAPITAL LETTER AKHMIMIC KHEI,3ALFA",
    "3BOHAIRIC KHEI,3CROSSED SHEI,3CRYPTOGRAMMIC EIE,4GANGIA,4NI,4SHEI,3DALDA",
    "3DEI,3DIALECT-P ALEF,4HORI,4KAPA,4NI,3EIE,3FEI,3FI,3GAMMA,3GANGIA,3HATE",
    "3HORI,3IAUDA,3KAPA,3KHEI,3KHI,3KSI,3L-SHAPED HA,3LAULA,3MI,3NI,3O",
    "3OLD COPTIC AIN,5DJA,5ESH,5GANGIA,5HA,5HAT,5HEI,5HORI,5OOU,5SHEI,5SHIMA",
    "4NUBIAN NGI,5NYI,5SHIMA,5WAU,3OOU,3PI,3PSI,3RO,3SAMPI,3SHEI,3SHIMA,3SIMA",
    "3SOU,3TAU,3THETHE,3UA,3VIDA,3ZATA,1COMBINING NI ABOVE,2SPIRITUS ASPER",
    "3LENIS,1EPACT DIGIT EIGHT,3FIVE,3FOUR,3NINE,3ONE,3SEVEN,3SIX,3THREE,3TWO",
    "2NUMBER EIGHT HUNDRED,3EIGHTY,3FIFTY,3FIVE HUNDRED,3FORTY,3FOUR HUNDRED",
    "3NINE HUNDRED,3NINETY,3ONE HUNDRED,3SEVEN HUNDRED,3SEVENTY,3SIX HUNDRED",
    "3SIXTY,3TEN,3THIRTY,3THREE HUNDRED,3TWENTY,3TWO HUNDRED,2THOUSANDS MARK",
    "1FRACTION ONE HALF,1FULL STOP,1MORPHOLOGICAL DIVIDER",
    "1OLD NUBIAN DIRECT QUESTION MARK,3FULL STOP,3INDIRECT QUESTION MARK",
    "3VERSE DIVIDER,1SMALL LETTER AKHMIMIC KHEI,3ALFA,3BOHAIRIC KHEI",
    "3CROSSED SHEI,3CRYPTOGRAMMIC EIE,4GANGIA,4NI,4SHEI,3DALDA,3DEI",
    "3DIALECT-P ALEF,4HORI,4KAPA,4NI,3EIE,3FEI,3FI,3GAMMA,3GANGIA,3HATE,3HORI",
    "3IAUDA,3KAPA,3KHEI,3KHI,3KSI,3L-SHAPED HA,3LAULA,3MI,3NI,3O",
    "3OLD COPTIC AIN,5DJA,5ESH,5GANGIA,5HA,5HAT,5HEI,5HORI,5OOU,5SHEI,5SHIMA",
    "4NUBIAN NGI,5NYI,5SHIMA,5WAU,3OOU,3PI,3PSI,3RO,3SAMPI,3SHEI,3SHIMA,3SIMA",
    "3SOU,3TAU,3THETHE,3UA,3VIDA,3ZATA,1SYMBOL KAI,2KHI RO,2MI RO,2PI RO",
    "2SHIMA SIMA,2STAUROS,2TAU RO,0COPYLEFT SYMBOL,0COPYRIGHT SIGN,0CORAL",
    "0CORNISH VERSE DIVIDER,0CORRESPONDS TO,0COUCH AND LAMP,0COUNTERBORE",
    "0COUNTERSINK,0COUNTING ROD TENS DIGIT EIGHT,4FIVE,4FOUR,4NINE,4ONE,4SEVEN",
    "4SIX,4THREE,4TWO,2UNIT DIGIT EIGHT,4FIVE,4FOUR,4NINE,4ONE,4SEVEN,4SIX",
    "4THREE,4TWO,0COUPLE WITH HEART,0COW,1FACE,0CR,0CRAB,0CREDIT CARD",
    "0CRESCENT MOON,0CRICKET,1BAT AND BALL,0CROCODILE,0CROISSANT,0CROSS MARK",
    "1OF JERUSALEM,2LORRAINE,1PATTY WITH LEFT CROSSBAR,3RIGHT CROSSBAR,1POMMEE",
    "2WITH HALF-CIRCLE BELOW,0CROSSED FLAGS",
    "1NEGATIVE SQUARED LATIN CAPITAL LETTER P,1SWORDS,0CROSSING LANES,0CROWN",
    "0CRUTCH,0CRUZEIRO SIGN,0CRYING CAT FACE,1FACE,0CRYSTAL BALL,0CSI",
    "0CUBE ROOT,0CUCUMBER,0CUNEIFORM NUMERIC SIGN EIGHT ASH,4DISH,4GESH2",
    "4SHAR2,4U,5VARIANT FORM,4VARIANT FORM USSU,6USSU3,3ELAMITE FIFTY,4FORTY",
    "4ONE THIRD,4TWO THIRDS,3FIVE ASH,5TENU,4BAN2,5VARIANT FORM,4BURU,4DISH",
    "4GESH2,4GESHU,4SHAR2,4SHARU,4SIXTHS DISH,4U,5VARIANT FORM,3FOUR ASH,5TENU",
    "4BAN2,5VARIANT FORM,4BURU,4DISH,4GESH2,4GESHU,4SHAR2,4SHARU,4U",
    "5VARIANT FORM,4VARIANT FORM LIMMU,7A,7B,6LIMMU4,3NIGIDAESH,3NIGIDAMIN",
    "3NINE ASH,4DISH,4GESH2,4SHAR2,4U,5VARIANT FORM,4VARIANT FORM ILIMMU,7A",
    "6ILIMMU3,6ILIMMU4,3OLD ASSYRIAN ONE QUARTER,6SIXTH,3ONE BAN2,4BURU",
    "4EIGHTH ASH,4ESHE3,4GESH2,4GESHU,4HALF GUR,4QUARTER ASH,5GUR,4SHARU",
    "4THIRD DISH,5VARIANT FORM A,3SEVEN ASH,4DISH,4GESH2,4SHAR2,4U",
    "5VARIANT FORM,4VARIANT FORM IMIN A,7B,6IMIN3,3SHAR2 TIMES GAL PLUS DISH",
    "7MIN,3SIX ASH,5TENU,4DISH,4GESH2,4SHAR2,4U,5VARIANT FORM",
    "4VARIANT FORM ASH9,3THREE ASH,5TENU,4BAN2,4BURU,5VARIANT FORM,4DISH",
    "4GESH2,4GESHU,4SHAR2,5VARIANT FORM,4SHARU,5VARIANT FORM",
    "4VARIANT FORM ESH16,6ESH21,3TWO ASH,5TENU,4BAN2,4BURU,4ESHE3,4GESH2",
    "4GESHU,4SHAR2,4SHARU,4THIRDS DISH,5VARIANT FORM A",
    "1PUNCTUATION SIGN DIAGONAL COLON,4QUADCOLON,4TRICOLON",
    "3OLD ASSYRIAN WORD DIVIDER,3VERTICAL COLON,1SIGN A,3TIMES A,4BAD",
    "4GAN2 TENU,4HA,4IGI,4LAGAR GUNU,4MUSH,4SAG,2A2,2AB,3GUNU,3TIMES ASH2",
    "4DUN3 GUNU,4GAL,4GAN2 TENU,4HA,4IGI GUNU,4IMIN,4LAGAB,4NUN,5TENU,4SHESH",
    "4SHU2,4U PLUS U PLUS U,2AB2,3TIMES A,4BALAG,4GAN2 TENU,4ME PLUS EN,4SHA3",
    "4TAK4,2AD,3TIMES ESH2,2AK,3TIMES ERIN2,4SHITA PLUS GISH,2AL,3TIMES AL",
    "4DIM2,4GISH,4HA,4KAD3,4KI,4SHE,4USH,2ALAN,2ALEPH,2AMAR,3TIMES KUG,4SHE",
    "2AN,3OVER AN,3PLUS NAGA OPPOSING AN PLUS NAGA,5SQUARED,3THREE TIMES",
    "2ANSHE,2APIN,2ARAD,3TIMES KUR,2ARKAB,2ASAL2,2ASH,3KABA TENU",
    "3OVER ASH OVER ASH,7CROSSING ASH OVER ASH OVER ASH",
    "5TUG2 OVER TUG2 TUG2 OVER TUG2 PAP,3ZIDA TENU,2ASH2,2ASHGAB,2BA,2BAD",
    "3TIMES DISH TENU,2BAG3,2BAHAR2,3TIMES AB2,4NI,4ZA,2BAL,3OVER BAL,2BALAG",
    "2BAR,2BARA2,2BI,3TIMES A,4GAR,4IGI GUNU,2BU,3CROSSING BU,3OVER BU AB",
    "5TIMES NA2,5UN,2BULUG,3OVER BULUG,2BUR,2BUR2,2DA,3TIMES TAK4,2DAG",
    "3KISIM5 TIMES A PLUS MASH,5AMAR,5BALAG,5BI,5GA,6PLUS MASH,5GI,5GIR2,5GUD",
    "5HA,5IR,6PLUS LU,5KAK,5LA,5LU,6PLUS MASH2,5LUM,5NE,5PAP PLUS PAP,5SI",
    "5TAK4,5U2 PLUS GIR2,7MASH,5USH,3TIMES KUR,2DAG3,2DAM,2DAR,2DARA3,2DARA4",
    "2DI,2DIB,2DIM,3TIMES IGI,4SHE,4U U U,2DIM2,3TIMES UD,2DIN",
    "3KASKAL U GUNU DISH,2DISH,3PLUS SHU,2DU,3GUNU,3OVER DU,3SHESHIG,2DUB",
    "3TIMES ESH2,4SHE,2DUB2,2DUG,3TIMES ANSHE,4ASH,5AT LEFT,4DIN,4DUN,4ERIN2",
    "4GA,4GI,4GIR2 GUNU,4GISH,4HA,4HI,4IGI GUNU,4KASKAL,4KUR,4KUSHU2",
    "5PLUS KASKAL,4LAK-020,4LAM,5TIMES KUR,4LUH PLUS GISH,4MASH,4MES,4MI,4NI",
    "4PI,4SHE,4SI GUNU,2DUGUD,2DUH,2DUN,2DUN3,3GUNU,4GUNU,2DUN4,2DUR2,2E",
    "3OVER E NUN OVER NUN,3TIMES PAP,2E2,3TIMES A PLUS HA PLUS DA,4GAR,4KUR",
    "4MI,4PAP,4SAL,4SHE,4U,2EDIN,2EGIR,2EL,2EN,3CROSSING EN,3OPPOSING EN",
    "3SQUARED,3TIMES GAN2,5TENU,4ME,2EREN,2ERIN2,3X,2ESH2,3CROSSING ESH2,2EZEN",
    "3SHESHIG TIMES ASH,5HI,5IGI GUNU,5LA,5LAL,5ME,5MES,5SU,3TIMES A,5PLUS LAL",
    "7TIMES LAL,4AN,4BAD,4DUN3 GUNU,6GUNU,4GUD,4HA,5GUNU,4IGI GUNU,4KASKAL",
    "5SQUARED,4KU3,4LA,4LAL TIMES LAL,4LI,4LU,4SHE,4SU,4U2,4UD,2GA,3GUNU,2GA2",
    "3OVER GA2,3TIMES A PLUS DA PLUS HA,6HA,6IGI,4AB2 TENU PLUS TAB,4AN",
    "5PLUS KAK PLUS A,4ASH,4ASH2,5PLUS GAL,4BAD,4BAHAR2,4BAR PLUS RA,4BUR",
    "5PLUS RA,4DA,4DI,4DIM GUNU,5TIMES SHE,4DUB,4DUG TIMES IGI GUNU,6KASKAL",
    "4EL,5PLUS LA,4EN,5TIMES GAN2 TENU,4EREN,4GA,4GAN2 TENU,4GAR,5PLUS DI,6NE",
    "4GI,4GI4,5PLUS A,4GIR2 PLUS SU,4HA PLUS A,6LU PLUS ESH2,4HAL,5PLUS LA",
    "4HI PLUS LI,4HUB2,4IGI GUNU,4ISH PLUS HU PLUS ASH,4KAK,4KASKAL,4KID",
    "5PLUS LAL,4KU3 PLUS AN,4KUSHU2 PLUS KASKAL,4LA,4LAM,5TIMES KUR,4LUH",
    "4ME PLUS EN,4MI,4MUSH,4NE,5PLUS E2,6GI,4NUN,5OVER NUN,4PA,4SAL,4SAR,4SHE",
    "5PLUS TUR,4SHID,4SHIM,4SUM,4TAK4,4U,4UD,5PLUS DU,4ZIZ2,2GABA",
    "3CROSSING GABA,3ROTATED NINETY DEGREES,2GAD,3OVER GAD GAR OVER GAR,2GAL",
    "3GAD OVER GAD GAR OVER GAR,2GALAM,2GAM,2GAN,2GAN2,3CROSSING GAN2",
    "3OVER GAN2,3TENU,2GAR,2GAR3,2GASHAN,2GE22,2GESHTIN,3TIMES KUR,4U,2GI",
    "3CROSSING GI,3TIMES E,4U,2GI4,3CROSSING GI4,3OVER GI4,2GIDIM,2GIG,2GIR2",
    "3GUNU,2GIR3,3TIMES A PLUS IGI,4GAN2 TENU,4IGI,4LU PLUS IGI,4PA,2GISAL",
    "2GISH,3CROSSING GISH,3TENU,3TIMES BAD,4GISH CROSSING GISH,4TAK4,2GU",
    "3CROSSING GU,2GU2,3GUNU,3TIMES IGI GUNU,4KAK,5TIMES IGI GUNU,4NUN",
    "4SAL PLUS TUG2,2GUD,3OVER GUD LUGAL,3PLUS GISH TIMES TAK4",
    "3TIMES A PLUS KUR,4KUR,2GUL,2GUM,3TIMES SHE,2GUR,2GUR7,2GURUN,2GURUSH,2HA",
    "3GUNU,3TENU,4GUNU,2HAL,2HI,3TIMES ASH,5OVER HI TIMES ASH,4ASH2,4BAD,4DISH",
    "4GAD,4KIN,4NUN,4SHE,4U,2HU,2HUB2,3TIMES AN,4HAL,4KASKAL,4LISH,4UD,2HUL2",
    "2HUSH,2I,3A,2IB,2IDIM,3OVER IDIM BUR,5SQUARED,2IG,2IGI,3DIB,3GUNU",
    "3OVER IGI SHIR OVER SHIR UD OVER UD,3RI,2IL,3TIMES GAN2 TENU,2IL2,2IM",
    "3CROSSING IM,3OPPOSING IM,3SQUARED,3TIMES TAK4,2IMIN,2IN,2IR,2ISH,2KA",
    "3TIMES A,4AD,5PLUS KU3,4ANSHE,4ASH2,4ASH3,4BAD,4BALAG,4BAR,4BI,4BU,4ERIN2",
    "4ESH2,4GA,4GAL,4GAN2 TENU,4GAR,5PLUS SHA3 PLUS A,4GI,4GIR2,4GISH",
    "5CROSSING GISH,5PLUS SAR,4GU,4GUD,4GUR7,4HI TIMES ASH2,4IGI,4IM,4KA,4KAK",
    "4KI,4KID,4LI,4LU,4LUM,4ME,5PLUS DU,6GI,6TE,4MI,5PLUS NUNUZ,4NE,4NUN,4PA",
    "4PI,4RU,4SA,4SAR,4SHA,4SHE,4SHID,4SHU,4SHUL,4SIG,4SUHUR,4TAR,4TU,4U,5U U",
    "4U2,4UD,4UMUM TIMES PA,4UR,4UR2,4USH,4ZI,2KA2,3CROSSING KA2,2KAB,2KAD2",
    "2KAD3,2KAD4,2KAD5,3OVER KAD5,2KAK,3TIMES IGI GUNU,2KAL,3CROSSING KAL",
    "3TIMES BAD,2KAM2,2KAM4,2KAP ELAMITE,2KASKAL",
    "3LAGAB TIMES U OVER LAGAB TIMES U",
    "3OVER KASKAL LAGAB TIMES U OVER LAGAB TIMES U,2KESH2,2KI,3TIMES BAD,4U",
    "4UD,2KID,2KIN,2KISAL,2KISH,2KISIM5,3OVER KISIM5,2KU",
    "3OVER HI TIMES ASH2 KU OVER HI TIMES ASH2,2KU3,2KU4,3VARIANT FORM,2KU7",
    "2KUL,3GUNU,2KUN,2KUR,3OPPOSING KUR,2KUSHU2,2KWU318,2LA,2LAGAB,3SQUARED",
    "3TIMES A,5PLUS DA PLUS HA,6GAR,6LAL,4AL,4AN,4ASH ZIDA TENU,4BAD,4BI,4DAR",
    "4EN,4GA,4GAR,4GI,4GUD,5PLUS GUD,4HA,4HAL,4HI TIMES NUN,4IGI GUNU,4IM",
    "5PLUS HA,6LU,4KI,4KIN,4KU3,4KUL,5PLUS HI PLUS A,4LAGAB,4LISH,4LU,4LUL,4ME",
    "5PLUS EN,4MUSH,4NE,4SHE PLUS SUM,4SHITA PLUS GISH PLUS ERIN2,7TENU,4SHU2",
    "5PLUS SHU2,4SUM,4TAG,4TAK4,4TE PLUS A PLUS SU PLUS NA,4U,5PLUS A",
    "6U PLUS U,4U2 PLUS ASH,4UD,4USH,4ZU OVER ZU,2LAGAR,3GUNU",
    "4OVER LAGAR GUNU SHE,3TIMES SHE,5PLUS SUM,2LAHSHU,2LAK-003,2LAK-021",
    "2LAK-025,2LAK-030,2LAK-050,2LAK-051,2LAK-062,2LAK-079 OVER LAK-079 GUNU",
    "2LAK-080,2LAK-081 OVER LAK-081,2LAK-092,2LAK-130,2LAK-142,2LAK-210",
    "2LAK-219,2LAK-220,2LAK-225,2LAK-228,2LAK-238,2LAK-265,2LAK-266,2LAK-343",
    "2LAK-347,2LAK-348,2LAK-383,2LAK-384,2LAK-390,2LAK-441,2LAK-449,3TIMES GU",
    "4IGI,4PAP PLUS LU3,6PAP PLUS LU3,4U2 PLUS BA,2LAK-450,2LAK-457,2LAK-470",
    "2LAK-483,2LAK-490,2LAK-492,2LAK-493,2LAK-495,2LAK-550,2LAK-608,2LAK-617",
    "3TIMES ASH,4BAD,4DUN3 GUNU GUNU,4KU3,4LA,4TAR,4TE,4U2,4UD,4URUDA,2LAK-636",
    "2LAK-648,3TIMES DUB,4GA,4IGI,5GUNU,4NI,4PAP PLUS PAP PLUS LU3",
    "4SHESH PLUS KI,4UD,4URUDA,2LAK-724,2LAK-749,2LAL,3TIMES LAL,2LAM",
    "3TIMES KUR,5PLUS RU,2LI,2LIL,2LIMMU2,2LISH,2LU,3TIMES BAD,2LU2",
    "3CROSSING LU2,3GUNU TIMES ASH,3OPPOSING LU2,3SHESHIG,4TIMES BAD,3SQUARED",
    "3TENU,3TIMES AL,4BAD,4DISH,4ESH2,5PLUS LAL,5TENU,4GAN2 TENU,4HAL",
    "4HI TIMES BAD,4IM,4KAD2,4KAD3,5PLUS ASH,4KI,4LA PLUS ASH,4LAGAB",
    "4ME PLUS EN,4NE,4NU,4PAP,5PLUS PAP PLUS LU3,4SHU,4SI PLUS ASH",
    "4SIK2 PLUS BU,4TAK4,4TUG2,2LU3,2LUGAL,3OPPOSING LUGAL,3OVER LUGAL",
    "3SHESHIG,2LUH,2LUL,2LUM,3OVER LUM,5GAR OVER GAR,2MA,3GUNU,3TIMES TAK4",
    "2MA2,2MAH,2MAR,2MASH,2MASH2,2ME,2MES,2MESH,2MI,3PLUS ZA7,2MIN,2MU",
    "3OVER MU,2MUG,3GUNU,2MUNSUB,2MURGU2,2MUSH,3CROSSING MUSH,3OVER MUSH",
    "5TIMES A PLUS NA,6GA,6KAK,3TIMES A,4KUR,4ZA,2MUSH3,3GUNU,3TIMES A",
    "5PLUS DI,4DI,4ZA,2NA,2NA2,2NA4,2NAGA,3INVERTED,3OPPOSING NAGA",
    "3TIMES SHU TENU,2NAGAR,2NAM,3NUTILLU,2NAM2,2NE,3SHESHIG,3TIMES A,4UD,2NI",
    "3TIMES E,2NI2,2NIM,3TIMES GAN2 TENU,4GAR PLUS GAN2 TENU,2NIN,2NIN9",
    "2NINDA2,3TIMES AN,4ASH,5PLUS ASH,4BAL,4DIM GUNU,4GI,4GISH,4GUD,4GUL,4HI",
    "4KESH2,4LAK-050,4MASH,4ME PLUS GAN2 TENU,4NE,4NUN,4PAP PLUS PAP,4SHE",
    "5PLUS A AN,6ASH,7PLUS ASH,4U,5PLUS U,4U2 PLUS ASH,4URUDA,4USH,2NISAG,2NU",
    "2NU11,3OVER NU11 BUR OVER BUR,3ROTATED NINETY DEGREES,3TENU,2NUN",
    "3CROSSING NUN,5LAGAR OVER LAGAR,3LAGAR TIMES GAR,5MASH,5SAL",
    "6OVER NUN LAGAR TIMES SAL,5USH,3OVER NUN,3TENU,2NUNUZ,3AB2 TIMES ASHGAB",
    "5BI,5DUG,5GUD,5IGI GUNU,5KAD3,5LA,5NE,5SILA3,5U2,3KISIM5 TIMES BI,6U,2PA",
    "2PAD,2PAN,2PAP,2PESH2,3ASTERISK,2PI,3CROSSING PI,3TIMES A,4AB,4BI,4BU,4E",
    "4I,4IB,4U,4U2,2PIR2,2PIRIG,3OPPOSING PIRIG,3TIMES KAL,4UD,4ZA,2RA,2RAB",
    "2RI,2RU,2SA,2SAG,3GUNU,4TIMES HA,3NUTILLU,3OVER SAG,3TIMES A,4DU,4DUB,4EN",
    "4HA,4IGI GUNU,4KAK,4KUR,4LUM,4MI,4NUN,4SAL,4SHE AT LEFT,4SHID,4TAB,4TAK4",
    "4U2,4UB,4UM,4UR,4USH,2SAL,3LAGAB TIMES ASH2,2SANGA2,2SAR,2SHA,2SHA3",
    "3TIMES A,4BAD,4GISH,4NE,4SHU2,4TUR,4U,5PLUS A,2SHA6,3TENU,2SHAB6,2SHAR2",
    "2SHE,3HU,3OVER SHE,5GAD OVER GAD GAR OVER GAR,5TAB OVER TAB GAR OVER GAR",
    "3PLUS HUB2,4NAM2,4SAR,2SHEG9,2SHEN,2SHESH,2SHESH2,2SHESHLAM,2SHID",
    "3TIMES A,4IM,2SHIM,3TIMES A,4BAL,4BULUG,4DIN,4GAR,4IGI,5GUNU,4KUSHU2,4LUL",
    "4MUG,4SAL,2SHINIG,2SHIR,3OVER SHIR BUR OVER BUR,3TENU,2SHITA,2SHU",
    "3OVER INVERTED SHU,2SHU2,3PLUS DUG TIMES NI,4E2 TIMES AN,2SHUBUR,2SI",
    "3GUNU,3TIMES TAK4,2SIG,2SIG4,3OVER SIG4 SHU2,2SIK2,2SILA3,2SU,3OVER SU",
    "2SUD,2SUD2,2SUHUR,2SUM,2SUMASH,2SUR,2SUR9,2TA,3ASTERISK,3GUNU,3TIMES HI",
    "4MI,2TAB,3OVER TAB NI OVER NI DISH OVER DISH,3SQUARED,2TAG,3TIMES BI,4GUD",
    "4SHE,4SHU,4TUG2,4UD,2TAK4,3PLUS SAG,2TAR,2TE,3GUNU,2TI,3TENU,2TI2,2TIL",
    "2TIR,3OVER TIR,5GAD OVER GAD GAR OVER GAR,3TIMES TAK4,2TU,2TUG2,2TUK,2TUM",
    "3TIMES GAN2 TENU,4THREE DISH,2TUR,3OVER TUR ZA OVER ZA,2U,3GUD",
    "3OVER U PA OVER PA GAR OVER GAR,5SUR OVER SUR,5U REVERSED OVER U REVERSED",
    "3U,4U,2U2,2UB,2UD,3GUNU,3KUSHU2,3SHESHIG,4TIMES BAD,3TIMES BAD,4MI",
    "4U PLUS U PLUS U,9GUNU,2UDUG,2UM,3TIMES LAGAB,4ME,5PLUS DA,4SHA3,4U",
    "2UMBIN,2UMUM,3TIMES KASKAL,4PA,2UN,3GUNU,2UR,3CROSSING UR,3SHESHIG,2UR2",
    "3INVERTED,3TIMES A PLUS HA,6NA,4AL,4HA,4NUN,4U2,5PLUS ASH,6BI,4UD,2UR4",
    "2URI,2URI3,2URU,3TIMES A,4ASHGAB,4BAR,4DARA3,4DUN,4GA,4GAL,4GAN2 TENU",
    "4GAR,4GU,4HA,4IGI,4IM,4ISH,4KI,4LAK-668,4LU3,4LUM,4MIN,4PA,4SHE,4SIG4,4TU",
    "4U PLUS GUD,4UD,4URUDA,2URUDA,3TIMES U,2USH,3TIMES A,4KU,4KUR,4TAK4,2USH2",
    "2USHUMX,2USHX,2UTUKI,2UZ3,3TIMES KASKAL,2UZU,2ZA,3SQUARED TIMES KUR,3TENU",
    "2ZA7,2ZAG,2ZAMX,2ZE2,2ZI,3OVER ZI,2ZI3,2ZIB,3KABA TENU,2ZIG,2ZIZ2,2ZU",
    "3OVER ZU PLUS SAR,2ZU5,3TIMES A,4THREE DISH TENU,2ZUBUR,2ZUM",
    "0CUP ON BLACK SQUARE,1WITH STRAW,0CUPCAKE,0CUPIDO,0CURLING STONE",
    "0CURLY BRACKET EXTENSION,1LOGICAL AND,2OR,1LOOP,0CURRENCY EXCHANGE,1SIGN",
    "0CURRY AND RICE,0CURVED STEM PARAGRAPH SIGN ORNAMENT,0CUSTARD,0CUSTOMS",
    "0CUT OF MEAT,0CYCLONE,0CYLINDRICITY,0CYPRIOT SYLLABLE A,2E,2I,2JA,2JO,2KA",
    "2KE,2KI,2KO,2KU,2LA,2LE,2LI,2LO,2LU,2MA,2ME,2MI,2MO,2MU,2NA,2NE,2NI,2NO",
    "2NU,2O,2PA,2PE,2PI,2PO,2PU,2RA,2RE,2RI,2RO,2RU,2SA,2SE,2SI,2SO,2SU,2TA",
    "2TE,2TI,2TO,2TU,2U,2WA,2WE,2WI,2WO,2XA,2XE,2ZA,2ZO",
    "0CYPRO-MINOAN SIGN CM001,2CM002,2CM004,2CM005,2CM006,2CM007,2CM008,2CM009",
    "2CM010,2CM011,2CM012,2CM012B,2CM013,2CM015,2CM017,2CM019,2CM021,2CM023",
    "2CM024,2CM025,2CM026,2CM027,2CM028,2CM029,2CM030,2CM033,2CM034,2CM035",
    "2CM036,2CM037,2CM038,2CM039,2CM040,2CM041,2CM044,2CM046,2CM047,2CM049",
    "2CM050,2CM051,2CM052,2CM053,2CM054,2CM055,2CM056,2CM058,2CM059,2CM060",
    "2CM061,2CM062,2CM063,2CM064,2CM066,2CM067,2CM068,2CM069,2CM070,2CM071",
    "2CM072,2CM073,2CM074,2CM075,2CM075B,2CM076,2CM078,2CM079,2CM080,2CM081",
    "2CM082,2CM083,2CM084,2CM085,2CM086,2CM087,2CM088,2CM089,2CM090,2CM091",
    "2CM092,2CM094,2CM095,2CM096,2CM097,2CM098,2CM099,2CM100,2CM101,2CM102",
    "2CM103,2CM104,2CM105,2CM107,2CM108,2CM109,2CM110,2CM112,2CM114,2CM301",
    "2CM302,0CYRILLIC CAPITAL LETTER A,4WITH BREVE,5DIAERESIS,3ABKHASIAN CHE",
    "5WITH DESCENDER,4DZE,4HA,3ALEUT KA,3BARRED O,5WITH DIAERESIS,3BASHKIR KA",
    "3BE,3BIG YUS,3BINOCULAR O,3BLENDED YUS,3BROAD OMEGA",
    "3BYELORUSSIAN-UKRAINIAN I,3CCHE,3CHE,4WITH DESCENDER,5DIAERESIS",
    "5VERTICAL STROKE,3CLOSED LITTLE YUS,3CROSSED O,3DCHE,3DE,3DJE,3DJERV",
    "3DOUBLE MONOCULAR O,4O,3DWE,3DZE,3DZELO,3DZHE,3DZWE,3DZZE,3DZZHE,3E",
    "4WITH DIAERESIS,3EF,3EL,4WITH DESCENDER,5HOOK,5MIDDLE HOOK,5TAIL,3EM",
    "4WITH TAIL,3EN,4WITH DESCENDER,5HOOK,5LEFT HOOK,5MIDDLE HOOK,5TAIL,3ER",
    "4WITH TICK,3ES,4WITH DESCENDER,3FITA,3GHE,4WITH DESCENDER,5MIDDLE HOOK",
    "5STROKE,6AND HOOK,5UPTURN,3GJE,3HA,4WITH DESCENDER,5HOOK,5STROKE",
    "3HARD SIGN,3HWE,3I,4WITH DIAERESIS,5GRAVE,5MACRON,3IE,4WITH BREVE,5GRAVE",
    "3IO,3IOTA,3IOTIFIED A,4BIG YUS,4CLOSED LITTLE YUS,4E,4LITTLE YUS,4YAT",
    "3IZHITSA,4WITH DOUBLE GRAVE ACCENT,3JE,3KA,4WITH DESCENDER,5HOOK,5STROKE",
    "5VERTICAL STROKE,3KHAKASSIAN CHE,3KJE,3KOMI DE,4DJE,4DZJE,4LJE,4NJE,4SJE",
    "4TJE,4ZJE,3KOPPA,3KSI,3LHA,3LITTLE YUS,3LJE,3MONOCULAR O,3MONOGRAPH UK",
    "3NEUTRAL YER,3NJE,3O,4WITH DIAERESIS,3OMEGA,4WITH TITLO,3OT,3PE",
    "4WITH DESCENDER,5MIDDLE HOOK,3PSI,3QA,3REVERSED DZE,4TSE,4YU,4ZE,3RHA",
    "3ROUND OMEGA,3SCHWA,4WITH DIAERESIS,3SEMISOFT SIGN,3SHA,3SHCHA,3SHHA",
    "4WITH DESCENDER,3SHORT I,5WITH TAIL,4U,3SHWE,3SOFT DE,4EL,4EM,4SIGN",
    "3STRAIGHT U,5WITH STROKE,3TCHE,3TE,4WITH DESCENDER,5MIDDLE HOOK,3TSE",
    "3TSHE,3TSSE,3TSWE,3TWE,3U,4WITH DIAERESIS,5DOUBLE ACUTE,5MACRON,3UK",
    "3UKRAINIAN IE,3VE,3WE,3YA,3YAE,3YAT,3YERU,4WITH BACK YER,5DIAERESIS,3YI",
    "3YN,3YU,3ZE,4WITH DESCENDER,5DIAERESIS,3ZEMLYA,3ZHE,4WITH BREVE",
    "5DESCENDER,5DIAERESIS,3ZHWE,2LIGATURE A IE,3EN GHE,3TE TSE,1KAVYKA",
    "1LETTER MULTIOCULAR O,2PALOCHKA,2SMALL CAPITAL EL,1PAYEROK",
    "1SMALL LETTER A,4WITH BREVE,5DIAERESIS,3ABKHASIAN CHE,5WITH DESCENDER",
    "4DZE,4HA,3ALEUT KA,3BARRED O,5WITH DIAERESIS,3BASHKIR KA,3BE,3BIG YUS",
    "3BINOCULAR O,3BLENDED YUS,3BROAD OMEGA,3BYELORUSSIAN-UKRAINIAN I,3CCHE",
    "3CHE,4WITH DESCENDER,5DIAERESIS,5VERTICAL STROKE,3CLOSED LITTLE YUS",
    "3CROSSED O,3DCHE,3DE,3DJE,3DJERV,3DOUBLE MONOCULAR O,4O,3DWE,3DZE,3DZELO",
    "3DZHE,3DZWE,3DZZE,3DZZHE,3E,4WITH DIAERESIS,3EF,3EL,4WITH DESCENDER,5HOOK",
    "5MIDDLE HOOK,5TAIL,3EM,4WITH TAIL,3EN,4WITH DESCENDER,5HOOK,5LEFT HOOK",
    "5MIDDLE HOOK,5TAIL,3ER,4WITH TICK,3ES,4WITH DESCENDER,3FITA,3GHE",
    "4WITH DESCENDER,5MIDDLE HOOK,5STROKE,6AND HOOK,5UPTURN,3GJE,3HA",
    "4WITH DESCENDER,5HOOK,5STROKE,3HARD SIGN,3HWE,3I,4WITH DIAERESIS,5GRAVE",
    "5MACRON,3IE,4WITH BREVE,5GRAVE,3IO,3IOTA,3IOTIFIED A,4BIG YUS",
    "4CLOSED LITTLE YUS,4E,4LITTLE YUS,4YAT,3IZHITSA,4WITH DOUBLE GRAVE ACCENT",
    "3JE,3KA,4WITH DESCENDER,5HOOK,5STROKE,5VERTICAL STROKE,3KHAKASSIAN CHE",
    "3KJE,3KOMI DE,4DJE,4DZJE,4LJE,4NJE,4SJE,4TJE,4ZJE,3KOPPA,3KSI,3LHA",
    "3LITTLE YUS,3LJE,3LONG-LEGGED DE,3MONOCULAR O,3MONOGRAPH UK,3NARROW O",
    "3NEUTRAL YER,3NJE,3O,4WITH DIAERESIS,3OMEGA,4WITH TITLO,3OT,3PALOCHKA,3PE",
    "4WITH DESCENDER,5MIDDLE HOOK,3PSI,3QA,3REVERSED DZE,4TSE,4YU,4ZE,3RHA",
    "3ROUND OMEGA,3ROUNDED VE,3SCHWA,4WITH DIAERESIS,3SEMISOFT SIGN,3SHA",
    "3SHCHA,3SHHA,4WITH DESCENDER,3SHORT I,5WITH TAIL,4U,3SHWE,3SOFT DE,4EL",
    "4EM,4SIGN,3STRAIGHT U,5WITH STROKE,3TALL HARD SIGN,4TE,4YAT,3TCHE,3TE",
    "4WITH DESCENDER,5MIDDLE HOOK,3THREE-LEGGED TE,3TSE,3TSHE,3TSSE,3TSWE,3TWE",
    "3U,4WITH DIAERESIS,5DOUBLE ACUTE,5MACRON,3UK,3UKRAINIAN IE,3UNBLENDED UK",
    "3VE,3WE,3WIDE ES,3YA,3YAE,3YAT,3YERU,4WITH BACK YER,5DIAERESIS,3YI,3YN",
    "3YU,3ZE,4WITH DESCENDER,5DIAERESIS,3ZEMLYA,3ZHE,4WITH BREVE,5DESCENDER",
    "5DIAERESIS,3ZHWE,2LIGATURE A IE,3EN GHE,3TE TSE,1THOUSANDS SIGN,0DAGGER",
    "1KNIFE,1WITH LEFT GUARD,2RIGHT GUARD,0DALET SYMBOL,0DANCER,0DANGO",
    "0DARK SHADE,1SUNGLASSES,0DASH SYMBOL,1WITH LEFT UPTURN,0DASHED LOW LINE",
    "1OVERLINE,1TRIANGLE-HEADED RIGHTWARDS ARROW,0DATA LINK ESCAPE,0DC1,0DC2",
    "0DC3,0DC4,0DCS,0DEAF PERSON,0DECIDUOUS TREE,0DECIMAL EXPONENT SYMBOL",
    "1SEPARATOR KEY SYMBOL,0DECREASE FONT SIZE SYMBOL,0DEER,0DEGREE CELSIUS",
    "1FAHRENHEIT,1SIGN,0DEL,0DELETE,0DELIVERY TRUCK,0DELTA EQUAL TO",
    "0DENTISTRY SYMBOL LIGHT DOWN AND HORIZONTAL,6WITH CIRCLE,7TRIANGLE,7WAVE",
    "3UP AND HORIZONTAL,6WITH CIRCLE,7TRIANGLE,7WAVE,3VERTICAL AND BOTTOM LEFT",
    "6RIGHT,5TOP LEFT,6RIGHT,5WAVE,4WITH CIRCLE,5TRIANGLE,0DEPARTMENT STORE",
    "0DERELICT HOUSE BUILDING,0DESCENDING NODE,0DESERET CAPITAL LETTER AY,3BEE",
    "3CHEE,3DEE,3EF,3EL,3EM,3EN,3ENG,3ER,3ES,3ESH,3ETH,3EW,3GAY,3H,3JEE,3KAY",
    "3LONG A,4AH,4E,4I,4O,4OO,3OI,3OW,3PEE,3SHORT A,4AH,4E,4I,4O,4OO,3TEE",
    "3THEE,3VEE,3WU,3YEE,3ZEE,3ZHEE,1SMALL LETTER AY,3BEE,3CHEE,3DEE,3EF,3EL",
    "3EM,3EN,3ENG,3ER,3ES,3ESH,3ETH,3EW,3GAY,3H,3JEE,3KAY,3LONG A,4AH,4E,4I,4O",
    "4OO,3OI,3OW,3PEE,3SHORT A,4AH,4E,4I,4O,4OO,3TEE,3THEE,3VEE,3WU,3YEE,3ZEE",
    "3ZHEE,0DESERT,1ISLAND,0DESKTOP COMPUTER,1WINDOW",
    "0DEVANAGARI ABBREVIATION SIGN,1ACUTE ACCENT,1CARET,1DANDA,1DIGIT EIGHT",
    "2FIVE,2FOUR,2NINE,2ONE,2SEVEN,2SIX,2THREE,2TWO,2ZERO,1DOUBLE DANDA",
    "1GAP FILLER,1GRAVE ACCENT,1HEADSTROKE,1JAIN OM,1LETTER A,2AA,2AI,2AU,2AW",
    "2AY,2BA,2BBA,2BHA,2CA,2CANDRA A,3E,3O,2CHA,2DA,2DDA,2DDDA,2DDDHA,2DDHA",
    "2DHA,2E,2FA,2GA,2GGA,2GHA,2GHHA,2GLOTTAL STOP,2HA,2HEAVY YA,2I,2II,2JA",
    "2JHA,2JJA,2KA,2KHA,2KHHA,2LA,2LLA,2LLLA,2MA,2MARWARI DDA,2NA,2NGA,2NNA",
    "2NNNA,2NYA,2O,2OE,2OOE,2PA,2PHA,2QA,2RA,2RHA,2RRA,2SA,2SHA,2SHORT A,3E,3O",
    "2SSA,2TA,2THA,2TTA,2TTHA,2U,2UE,2UU,2UUE,2VA,2VOCALIC L,3LL,3R,3RR,2YA",
    "2YYA,2ZA,2ZHA,1OM,1SIGN ANUSVARA,2AVAGRAHA,2CANDRABINDU,3AVAGRAHA,3THREE",
    "3TWO,3VIRAMA,2DOUBLE CANDRABINDU VIRAMA,2HIGH SPACING DOT",
    "2INVERTED CANDRABINDU,2NUKTA,2PUSHPIKA,2SIDDHAM,2SPACING CANDRABINDU",
    "2VIRAMA,2VISARGA,1STRESS SIGN ANUDATTA,3UDATTA,1VOWEL SIGN AA,3AI,3AU,3AW",
    "3AY,3CANDRA E,4LONG E,4O,3E,3I,3II,3O,3OE,3OOE,3PRISHTHAMATRA E,3SHORT E",
    "4O,3U,3UE,3UU,3UUE,3VOCALIC L,4LL,4R,4RR,0DEVICE CONTROL FOUR,2ONE",
    "2STRING,2THREE,2TWO,0DIAERESIS,0DIAMETER SIGN,0DIAMOND OPERATOR",
    "1SHAPE WITH A DOT INSIDE,1TARGET,1WITH BOTTOM HALF BLACK,2LEFT HALF BLACK",
    "2RIGHT HALF BLACK,2TOP HALF BLACK,0DIE FACE-1,1FACE-2,1FACE-3,1FACE-4",
    "1FACE-5,1FACE-6,0DIESEL LOCOMOTIVE,0DIFFERENCE BETWEEN,0DIGIT EIGHT",
    "2COMMA,2FULL STOP,1FIVE,2COMMA,2FULL STOP,1FOUR,2COMMA,2FULL STOP,1NINE",
    "2COMMA,2FULL STOP,1ONE,2COMMA,2FULL STOP,1SEVEN,2COMMA,2FULL STOP,1SIX",
    "2COMMA,2FULL STOP,1THREE,2COMMA,2FULL STOP,1TWO,2COMMA,2FULL STOP,1ZERO",
    "2COMMA,2FULL STOP,0DIGRAM FOR EARTH,2EARTHLY HEAVEN,3HUMAN,2GREATER YANG",
    "3YIN,2HEAVENLY EARTH,2HUMAN EARTH,2LESSER YANG,3YIN,0DIMENSION ORIGIN",
    "0DINGBAT CIRCLED SANS-SERIF DIGIT EIGHT,4FIVE,4FOUR,4NINE,4ONE,4SEVEN",
    "4SIX,4THREE,4TWO,4ZERO,3NUMBER TEN,1NEGATIVE CIRCLED DIGIT EIGHT,4FIVE",
    "4FOUR,4NINE,4ONE,4SEVEN,4SIX,4THREE,4TWO,3NUMBER TEN",
    "3SANS-SERIF DIGIT EIGHT,5FIVE,5FOUR,5NINE,5ONE,5SEVEN,5SIX,5THREE,5TWO",
    "5ZERO,4NUMBER TEN,0DIRECT CURRENT SYMBOL FORM TWO,1HIT,0DISABLED CAR",
    "0DISAPPOINTED BUT RELIEVED FACE,1FACE,0DISCONTINUOUS UNDERLINE SYMBOL",
    "0DISGUISED FACE,0DITTO MARK,0DIVES AKURU DIGIT EIGHT,3FIVE,3FOUR,3NINE",
    "3ONE,3SEVEN,3SIX,3THREE,3TWO,3ZERO,2DOUBLE DANDA,2END OF TEXT MARK",
    "2GAP FILLER,2INITIAL RA,2LETTER A,3AA,3BA,3BHA,3CA,3CHA,3DA,3DDA,3DDHA",
    "3DHA,3E,3GA,3GHA,3HA,3I,3II,3JA,3KA,3KHA,3LA,3LLA,3MA,3NA,3NGA,3NNA,3NYA",
    "3O,3PA,3PHA,3RA,3SA,3SHA,3SSA,3TA,3THA,3TTA,3U,3UU,3VA,3YA,3YYA,3ZA",
    "2MEDIAL RA,3YA,2PREFIXED NASAL SIGN,2SIGN ANUSVARA,3CANDRABINDU,3HALANTA",
    "3NUKTA,2VIRAMA,2VOWEL SIGN AA,4AI,4E,4I,4II,4O,4U,4UU,0DIVIDES",
    "0DIVING MASK,0DIVISION SIGN,1SLASH,1TIMES,0DIVORCE SYMBOL,0DIYA LAMP",
    "0DIZZY FACE,1SYMBOL,0DLE,0DNA DOUBLE HELIX,0DO NOT LITTER SYMBOL",
    "0DOCUMENT,1WITH PICTURE,2TEXT,3AND PICTURE,0DODO",
    "0DOES NOT CONTAIN AS MEMBER,4NORMAL SUBGROUP,6OR EQUAL,2DIVIDE",
    "3WITH REVERSED NEGATION SLASH,2FORCE,2PRECEDE,3OR EQUAL,2PROVE,2SUCCEED",
    "3OR EQUAL,0DOG,1FACE,0DOGRA ABBREVIATION SIGN,1LETTER A,2AA,2AI,2AU,2BA",
    "2BHA,2CA,2CHA,2DA,2DDA,2DDHA,2DHA,2E,2GA,2GHA,2HA,2I,2II,2JA,2JHA,2KA",
    "2KHA,2LA,2MA,2NA,2NGA,2NNA,2NYA,2O,2PA,2PHA,2RA,2RRA,2SA,2SHA,2SSA,2TA",
    "2THA,2TTA,2TTHA,2U,2UU,2VA,2YA,1SIGN ANUSVARA,2NUKTA,2VIRAMA,2VISARGA",
    "1VOWEL SIGN AA,3AI,3AU,3E,3I,3II,3O,3U,3UU,3VOCALIC R,4RR,0DOLLAR SIGN",
    "0DOLPHIN,0DOMINO TILE HORIZONTAL BACK,2HORIZONTAL-00-00,2HORIZONTAL-00-01",
    "2HORIZONTAL-00-02,2HORIZONTAL-00-03,2HORIZONTAL-00-04,2HORIZONTAL-00-05",
    "2HORIZONTAL-00-06,2HORIZONTAL-01-00,2HORIZONTAL-01-01,2HORIZONTAL-01-02",
    "2HORIZONTAL-01-03,2HORIZONTAL-01-04,2HORIZONTAL-01-05,2HORIZONTAL-01-06",
    "2HORIZONTAL-02-00,2HORIZONTAL-02-01,2HORIZONTAL-02-02,2HORIZONTAL-02-03",
    "2HORIZONTAL-02-04,2HORIZONTAL-02-05,2HORIZONTAL-02-06,2HORIZONTAL-03-00",
    "2HORIZONTAL-03-01,2HORIZONTAL-03-02,2HORIZONTAL-03-03,2HORIZONTAL-03-04",
    "2HORIZONTAL-03-05,2HORIZONTAL-03-06,2HORIZONTAL-04-00,2HORIZONTAL-04-01",
    "2HORIZONTAL-04-02,2HORIZONTAL-04-03,2HORIZONTAL-04-04,2HORIZONTAL-04-05",
    "2HORIZONTAL-04-06,2HORIZONTAL-05-00,2HORIZONTAL-05-01,2HORIZONTAL-05-02",
    "2HORIZONTAL-05-03,2HORIZONTAL-05-04,2HORIZONTAL-05-05,2HORIZONTAL-05-06",
    "2HORIZONTAL-06-00,2HORIZONTAL-06-01,2HORIZONTAL-06-02,2HORIZONTAL-06-03",
    "2HORIZONTAL-06-04,2HORIZONTAL-06-05,2HORIZONTAL-06-06,2VERTICAL BACK",
    "2VERTICAL-00-00,2VERTICAL-00-01,2VERTICAL-00-02,2VERTICAL-00-03",
    "2VERTICAL-00-04,2VERTICAL-00-05,2VERTICAL-00-06,2VERTICAL-01-00",
    "2VERTICAL-01-01,2VERTICAL-01-02,2VERTICAL-01-03,2VERTICAL-01-04",
    "2VERTICAL-01-05,2VERTICAL-01-06,2VERTICAL-02-00,2VERTICAL-02-01",
    "2VERTICAL-02-02,2VERTICAL-02-03,2VERTICAL-02-04,2VERTICAL-02-05",
    "2VERTICAL-02-06,2VERTICAL-03-00,2VERTICAL-03-01,2VERTICAL-03-02",
    "2VERTICAL-03-03,2VERTICAL-03-04,2VERTICAL-03-05,2VERTICAL-03-06",
    "2VERTICAL-04-00,2VERTICAL-04-01,2VERTICAL-04-02,2VERTICAL-04-03",
    "2VERTICAL-04-04,2VERTICAL-04-05,2VERTICAL-04-06,2VERTICAL-05-00",
    "2VERTICAL-05-01,2VERTICAL-05-02,2VERTICAL-05-03,2VERTICAL-05-04",
    "2VERTICAL-05-05,2VERTICAL-05-06,2VERTICAL-06-00,2VERTICAL-06-01",
    "2VERTICAL-06-02,2VERTICAL-06-03,2VERTICAL-06-04,2VERTICAL-06-05",
    "2VERTICAL-06-06,0DONG SIGN,0DOOR,0DOT ABOVE,1MINUS,1OPERATOR,1PLUS",
    "0DOTTED CIRCLE,1CROSS,1FENCE,1LINE FACE,1OBELOS,1RIGHT-POINTING ANGLE",
    "1SOLIDUS,1SQUARE,1TRANSPOSITION MARKER,0DOUBLE ACUTE ACCENT",
    "1CIRCLED DIGIT EIGHT,3FIVE,3FOUR,3NINE,3ONE,3SEVEN,3SIX,3THREE,3TWO",
    "2NUMBER TEN,1COLON EQUAL,1CURLY LOOP,1DAGGER,1DOWN TACK,1EXCLAMATION MARK",
    "1HIGH-REVERSED-9 QUOTATION MARK,1HYPHEN,1INTEGRAL,1INTERSECTION",
    "1LEFT ARC GREATER-THAN BRACKET,1LOGICAL AND,2OR,1LOW LINE",
    "1LOW-9 QUOTATION MARK,1LOW-REVERSED-9 QUOTATION MARK,1NESTED GREATER-THAN",
    "2LESS-THAN,3WITH UNDERBAR,1OBLIQUE HYPHEN,1PLUS,1PRECEDES,1PRIME",
    "2QUOTATION MARK,1QUESTION MARK,1RIGHT ARC LESS-THAN BRACKET",
    "1SOLIDUS OPERATOR,1SQUARE INTERSECTION,2UNION,1STACKED COMMA",
    "1STROKE NOT SIGN,1SUBSET,1SUCCEEDS,1SUPERSET,1SUSPENSION MARK,1UNION",
    "1UP TACK,1VERTICAL BAR,3DOUBLE LEFT TURNSTILE,4RIGHT TURNSTILE",
    "3LEFT TURNSTILE,2LINE,1WAVY OVERLINE,0DOUBLE-ENDED MULTIMAP",
    "0DOUBLE-LINE EQUAL TO OR GREATER-THAN,4LESS-THAN",
    "1SLANTED EQUAL TO OR GREATER-THAN,5LESS-THAN,2GREATER-THAN OR EQUAL TO",
    "2LESS-THAN OR EQUAL TO,0DOUBLE-STRUCK CAPITAL C,2GAMMA,2H,2N,2P,2PI,2Q,2R",
    "2Z,1ITALIC CAPITAL D,2SMALL D,3E,3I,3J,1N-ARY SUMMATION,1SMALL GAMMA,2PI",
    "0DOUBLED FEMALE SIGN,1MALE SIGN,1SYMBOL,0DOUGHNUT,0DOVE OF PEACE",
    "0DOWN ARROWHEAD,1FISH TAIL,1RIGHT DIAGONAL ELLIPSIS,1TACK",
    "2WITH CIRCLE BELOW,0DOWN-POINTING RED TRIANGLE,1SMALL RED TRIANGLE",
    "1TRIANGLE WITH LEFT HALF BLACK,3RIGHT HALF BLACK,0DOWNWARD FACING HOOK",
    "3WITH DOT,2NOTCHED HOOK,4WITH DOT,0DOWNWARDS ANCORA,1ARROW",
    "2AND RIGHT ONE EIGHTH BLOCK,2FROM BAR,2LEFTWARDS OF UPWARDS ARROW,2TO BAR",
    "2WITH CORNER LEFTWARDS,3DOUBLE STROKE,3EQUILATERAL ARROWHEAD",
    "3HORIZONTAL STROKE,3LARGE TRIANGLE ARROWHEAD,3MEDIUM TRIANGLE ARROWHEAD",
    "3NOTCHED TAIL,3SMALL EQUILATERAL ARROWHEAD,4TRIANGLE ARROWHEAD",
    "3TIP LEFTWARDS,4RIGHTWARDS,1BLACK ARROW,2CIRCLED WHITE ARROW",
    "1COMPRESSED ARROW,1DASHED ARROW,1DOUBLE ARROW,1FINGER-POST ARROW",
    "1HARPOON WITH BARB LEFT BESIDE DOWNWARDS HARPOON WITH BARB RIGHT",
    "6UPWARDS HARPOON WITH BARB RIGHT,5FROM BAR,5TO BAR,4LEFTWARDS",
    "4RIGHT FROM BAR,5TO BAR,4RIGHTWARDS,1HEAVY ARROW,2COMPRESSED ARROW",
    "1PAIRED ARROWS,1QUADRUPLE ARROW,1ROCKET,1SANS-SERIF ARROW,1SQUARED ARROW",
    "1TRIANGLE ARROWHEAD,1TRIANGLE-HEADED ARROW",
    "3LEFTWARDS OF UPWARDS TRIANGLE-HEADED ARROW,3TO BAR,3WITH BOLD SHAFT",
    "4DOUBLE HORIZONTAL STROKE,4HEAVY SHAFT,4LONG TIP LEFTWARDS,6RIGHTWARDS",
    "4MEDIUM SHAFT,4NARROW SHAFT,4VERY HEAVY SHAFT,2DASHED ARROW",
    "2PAIRED ARROWS,2ZIGZAG ARROW,1TRIPLE ARROW,1TWO HEADED ARROW",
    "1TWO-HEADED ARROW WITH TRIANGLE ARROWHEADS,1WHITE ARROW",
    "3WITHIN TRIANGLE ARROWHEAD,1ZIGZAG ARROW,0DRACHMA SIGN",
    "0DRAFTING POINT RIGHTWARDS ARROW,0DRAGON,1FACE,0DRESS,0DRIVE SLOW SIGN",
    "0DROMEDARY CAMEL,0DROOLING FACE,0DROP OF BLOOD,0DROPLET",
    "0DRUM WITH DRUMSTICKS,0DUCK,0DUMPLING,0DUPLOYAN AFFIX ATTACHED E HOOK",
    "3I HOOK,3LEFT-TO-RIGHT SECANT,3SECANT,3TAIL,3TANGENT,4HOOK,2HIGH ACUTE",
    "3CIRCLE,3DOT,3GRAVE,3LINE,3LONG GRAVE,3TIGHT ACUTE,3VERTICAL,4SECANT",
    "3WAVE,2LEFT HORIZONTAL SECANT,2LOW ACUTE,3ARROW,3CIRCLE,3DOT,3GRAVE,3LINE",
    "3LONG GRAVE,3TIGHT ACUTE,3VERTICAL,4SECANT,3WAVE,2MID HORIZONTAL SECANT",
    "3VERTICAL SECANT,2RIGHT HORIZONTAL SECANT,1DOUBLE MARK,1LETTER A,2AOU,2B",
    "2D,3S,2DH,2E,2EE,2EU,2F,3N,2G,3R S,2H,2HL,2I,2IE,2J,3M,4S,3N,4S,3S",
    "4WITH DOT,3WITH DOT,4DOTS INSIDE AND ABOVE,2K,3M,3R S,2KK,2L,2LH,2LONG I",
    "3U,2M,3N,4S,3S,3WITH DOT,2N,3M,4S,3S,3WITH DOT,2NASAL A,3I,3O,3U,2O,2OA",
    "2OOH,2OU,2OW,2P,3N,2PERNIN AM,3AN,2R,3S,2RH,2ROMANIAN I,3U,2S,3J,4S,3K,4R",
    "3M,3N,3P,4R,3S,3T,4R,3WITH DOT,5BELOW,2SHORT I,2SLOAN AN,3DH,3EE,3EH,3EN",
    "3J,3ON,3OW,3U,2T,3R S,3S,2TH,2U,3N,2UH,2UI,2V,2VOCALIC M,2W,3R,2WA,2WEI",
    "2WH,2WI,2WO,2WOW,2X,2XW,2YE,1PUNCTUATION CHINOOK FULL STOP",
    "1SIGN O WITH CROSS,1THICK LETTER SELECTOR,0DVD"]

end CallChains.Text.CharacterName
