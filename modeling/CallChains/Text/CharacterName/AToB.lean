/-!
The names of characters that start with the letters from A to B.
-/

namespace CallChains.Text.CharacterName

/-- Names in alphabetical order. Each starts with a digit, which is the number
of words that it shares with the name before it and that are left out. -/
def linesAToB : List String :=
  [
    "0ABACUS,0AC CURRENT,0ACCORDION,0ACCOUNT OF,0ACK,0ACKNOWLEDGE",
    "0ACTIVATE ARABIC FORM SHAPING,1SYMMETRIC SWAPPING,0ACUTE ACCENT,1ANGLE",
    "0ADDRESSED TO THE SUBJECT,0ADHESIVE BANDAGE,0ADI SHAKTI",
    "0ADLAM ALIF LENGTHENER,1CAPITAL LETTER ALIF,3BA,3BHE,3CHI,3DAALI,3DHA,3E",
    "3FA,3GA,3GBE,3HA,3I,3JIIM,3KAF,3KHA,3KPO,3LAAM,3MIIM,3NHA,3NUN,3NYA,3O",
    "3PE,3QAAF,3RA,3SHA,3SINNYIIYHE,3TU,3U,3VA,3WAW,3YA,3YHE,3ZAL",
    "1CONSONANT MODIFIER,1DIGIT EIGHT,2FIVE,2FOUR,2NINE,2ONE,2SEVEN,2SIX",
    "2THREE,2TWO,2ZERO,1GEMINATE CONSONANT MODIFIER,1GEMINATION MARK,1HAMZA",
    "1INITIAL EXCLAMATION MARK,2QUESTION MARK,1NASALIZATION MARK,1NUKTA",
    "1SMALL LETTER ALIF,3BA,3BHE,3CHI,3DAALI,3DHA,3E,3FA,3GA,3GBE,3HA,3I,3JIIM",
    "3KAF,3KHA,3KPO,3LAAM,3MIIM,3NHA,3NUN,3NYA,3O,3PE,3QAAF,3RA,3SHA",
    "3SINNYIIYHE,3TU,3U,3VA,3WAW,3YA,3YHE,3ZAL,1VOWEL LENGTHENER,0ADMETOS",
    "0ADMISSION TICKETS,0ADULT,0AEGEAN CHECK MARK,1DRY MEASURE FIRST SUBUNIT",
    "1LIQUID MEASURE FIRST SUBUNIT,1MEASURE SECOND SUBUNIT,2THIRD SUBUNIT",
    "1NUMBER EIGHT,3HUNDRED,3THOUSAND,2EIGHTY,3THOUSAND,2FIFTY,3THOUSAND,2FIVE",
    "3HUNDRED,3THOUSAND,2FORTY,3THOUSAND,2FOUR,3HUNDRED,3THOUSAND,2NINE",
    "3HUNDRED,3THOUSAND,2NINETY,3THOUSAND,2ONE,3HUNDRED,3THOUSAND,2SEVEN",
    "3HUNDRED,3THOUSAND,2SEVENTY,3THOUSAND,2SIX,3HUNDRED,3THOUSAND,2SIXTY",
    "3THOUSAND,2TEN,3THOUSAND,2THIRTY,3THOUSAND,2THREE,3HUNDRED,3THOUSAND",
    "2TWENTY,3THOUSAND,2TWO,3HUNDRED,3THOUSAND,1WEIGHT BASE UNIT",
    "2FIRST SUBUNIT,2FOURTH SUBUNIT,2SECOND SUBUNIT,2THIRD SUBUNIT",
    "1WORD SEPARATOR DOT,3LINE,0AERIAL TRAMWAY,0AFGHANI SIGN",
    "0AHOM CONSONANT SIGN MEDIAL LA,4LIGATING RA,4RA,1DIGIT EIGHT,2FIVE,2FOUR",
    "2NINE,2ONE,2SEVEN,2SIX,2THREE,2TWO,2ZERO,1LETTER A,2ALTERNATE BA,3GA,3TA",
    "2BA,2BHA,2CA,2CHA,2DA,2DDA,2DDHA,2DHA,2GA,2GHA,2HA,2JA,2JHA,2KA,2KHA,2LA",
    "2LLA,2MA,2NA,2NGA,2NNA,2NYA,2PA,2PHA,2RA,2SA,2TA,2THA,2TTA,2TTHA",
    "1NUMBER TEN,2TWENTY,1SIGN KILLER,2RULAI,2SECTION,2SMALL SECTION",
    "1SYMBOL VI,1VOWEL SIGN A,3AA,3AI,3AM,3AW,3E,3I,3II,3O,3U,3UU,0AIRPLANE",
    "1ARRIVING,1DEPARTURE,0AKTIESELSKAB,0ALARM CLOCK",
    "0ALCHEMICAL SYMBOL FOR AIR,3ALEMBIC,3ALKALI,3ALKALI-2,3ALUM,3AMALGAM",
    "3ANTIMONY ORE,3AQUA REGIA,4REGIA-2,4VITAE,4VITAE-2,3AQUAFORTIS,3ARSENIC",
    "3ASHES,3AURIPIGMENT,3BATH OF MARY,5VAPOURS,3BISMUTH ORE,3BLACK SULFUR",
    "3BORAX,3BORAX-2,3BORAX-3,3BRICK,3CADUCEUS,3CALX,3CAPUT MORTUUM,3CINNABAR",
    "3COPPER ANTIMONIATE,4ORE,3CROCUS OF COPPER,5COPPER-2,5IRON,3CRUCIBLE",
    "3CRUCIBLE-2,3CRUCIBLE-3,3CRUCIBLE-4,3CRUCIBLE-5,3DAY-NIGHT,3DISSOLVE",
    "3DISSOLVE-2,3DISTILL,3EARTH,3FIRE,3GOLD,3GUM,3HALF DRAM,4OUNCE",
    "3HORSE DUNG,3HOUR,3IRON ORE,4ORE-2,3IRON-COPPER ORE,3LEAD ORE,3LODESTONE",
    "3MARCASITE,3MERCURY SUBLIMATE,4SUBLIMATE-2,4SUBLIMATE-3,3MONTH,3NIGHT",
    "3NITRE,3OIL,3PHILOSOPHERS SULFUR,3POT ASHES,3POWDER,3POWDERED BRICK",
    "3PRECIPITATE,3PURIFY,3PUTREFACTION,3QUICK LIME,3QUINTESSENCE,3REALGAR",
    "3REALGAR-2,3REGULUS,4OF ANTIMONY,5ANTIMONY-2,5IRON,3REGULUS-2,3REGULUS-3",
    "3REGULUS-4,3RETORT,3ROCK SALT,4SALT-2,3SAL-AMMONIAC,3SALT,4OF ANTIMONY",
    "5COPPER ANTIMONIATE,3SCEPTER OF JOVE,3SILVER,3SOAP,3SPIRIT",
    "3STARRED TRIDENT,3STRATUM SUPER STRATUM,5STRATUM-2,3SUBLIMATE OF ANTIMONY",
    "5COPPER,5SALT OF ANTIMONY,7COPPER,3SUBLIMATION,3SULFUR,3TARTAR,3TARTAR-2",
    "3TIN ORE,3TINCTURE,3TRIDENT,3TUTTY,3URINE,3VERDIGRIS,3VINEGAR",
    "4OF ANTIMONY,3VINEGAR-2,3VINEGAR-3,3VITRIOL,3VITRIOL-2,3WATER,3WAX",
    "0ALEF SYMBOL,0ALEMBIC,0ALERT,0ALIEN MONSTER,0ALL AROUND-PROFILE,1EQUAL TO",
    "0ALM,0ALMOST EQUAL OR EQUAL TO,2TO,3WITH CIRCUMFLEX ACCENT",
    "0ALTERNATE ONE-WAY LEFT WAY TRAFFIC,0ALTERNATIVE KEY SYMBOL",
    "0AMALGAMATION OR COPRODUCT,0AMBULANCE,0AMERICAN FOOTBALL,0AMPERSAND",
    "0AMPHORA,0ANATOLIAN HIEROGLYPH A001,2A002,2A003,2A004,2A005,2A006,2A007",
    "2A008,2A009,2A010,2A010A,2A011,2A012,2A013,2A014,2A015,2A016,2A017,2A018",
    "2A019,2A020,2A021,2A022,2A023,2A024,2A025,2A026,2A026A,2A027,2A028,2A029",
    "2A030,2A031,2A032,2A033,2A034,2A035,2A036,2A037,2A038,2A039,2A039A,2A040",
    "2A041,2A041A,2A042,2A043,2A044,2A045,2A045A,2A046,2A046A,2A046B,2A047",
    "2A048,2A049,2A050,2A051,2A052,2A053,2A054,2A055,2A056,2A057,2A058,2A059",
    "2A060,2A061,2A062,2A063,2A064,2A065,2A066,2A066A,2A066B,2A066C,2A067",
    "2A068,2A069,2A070,2A071,2A072,2A073,2A074,2A075,2A076,2A077,2A078,2A079",
    "2A080,2A081,2A082,2A083,2A084,2A085,2A086,2A087,2A088,2A089,2A090,2A091",
    "2A092,2A093,2A094,2A095,2A096,2A097,2A097A,2A098,2A098A,2A099,2A100",
    "2A100A,2A101,2A101A,2A102,2A102A,2A103,2A104,2A104A,2A104B,2A104C,2A105",
    "2A105A,2A105B,2A106,2A107,2A107A,2A107B,2A107C,2A108,2A109,2A110,2A110A",
    "2A110B,2A111,2A112,2A113,2A114,2A115,2A115A,2A116,2A117,2A118,2A119,2A120",
    "2A121,2A122,2A123,2A124,2A125,2A125A,2A126,2A127,2A128,2A129,2A130,2A131",
    "2A132,2A133,2A134,2A135,2A135A,2A136,2A137,2A138,2A139,2A140,2A141,2A142",
    "2A143,2A144,2A145,2A146,2A147,2A148,2A149,2A150,2A151,2A152,2A153,2A154",
    "2A155,2A156,2A157,2A158,2A159,2A160,2A161,2A162,2A163,2A164,2A165,2A166",
    "2A167,2A168,2A169,2A170,2A171,2A172,2A173,2A174,2A175,2A176,2A177,2A178",
    "2A179,2A180,2A181,2A182,2A183,2A184,2A185,2A186,2A187,2A188,2A189,2A190",
    "2A191,2A192,2A193,2A194,2A195,2A196,2A197,2A198,2A199,2A200,2A201,2A202",
    "2A202A,2A202B,2A203,2A204,2A205,2A206,2A207,2A207A,2A208,2A209,2A209A",
    "2A210,2A211,2A212,2A213,2A214,2A215,2A215A,2A216,2A216A,2A217,2A218,2A219",
    "2A220,2A221,2A222,2A223,2A224,2A225,2A226,2A227,2A227A,2A228,2A229,2A230",
    "2A231,2A232,2A233,2A234,2A235,2A236,2A237,2A238,2A239,2A240,2A241,2A242",
    "2A243,2A244,2A245,2A246,2A247,2A248,2A249,2A250,2A251,2A252,2A253,2A254",
    "2A255,2A256,2A257,2A258,2A259,2A260,2A261,2A262,2A263,2A264,2A265,2A266",
    "2A267,2A267A,2A268,2A269,2A270,2A271,2A272,2A273,2A274,2A275,2A276,2A277",
    "2A278,2A279,2A280,2A281,2A282,2A283,2A284,2A285,2A286,2A287,2A288,2A289",
    "2A289A,2A290,2A291,2A292,2A293,2A294,2A294A,2A295,2A296,2A297,2A298,2A299",
    "2A299A,2A300,2A301,2A302,2A303,2A304,2A305,2A306,2A307,2A308,2A309,2A309A",
    "2A310,2A311,2A312,2A313,2A314,2A315,2A316,2A317,2A318,2A319,2A320,2A321",
    "2A322,2A323,2A324,2A325,2A326,2A327,2A328,2A329,2A329A,2A330,2A331,2A332A",
    "2A332B,2A332C,2A333,2A334,2A335,2A336,2A336A,2A336B,2A336C,2A337,2A338",
    "2A339,2A340,2A341,2A342,2A343,2A344,2A345,2A346,2A347,2A348,2A349,2A350",
    "2A351,2A352,2A353,2A354,2A355,2A356,2A357,2A358,2A359,2A359A,2A360,2A361",
    "2A362,2A363,2A364,2A364A,2A365,2A366,2A367,2A368,2A368A,2A369,2A370,2A371",
    "2A371A,2A372,2A373,2A374,2A375,2A376,2A377,2A378,2A379,2A380,2A381,2A381A",
    "2A382,2A383 RA OR RI,2A383A,2A384,2A385,2A386,2A386A,2A387,2A388,2A389",
    "2A390,2A391,2A392,2A393 EIGHT,2A394,2A395,2A396,2A397,2A398,2A399,2A400",
    "2A401,2A402,2A403,2A404,2A405,2A406,2A407,2A408,2A409",
    "2A410 BEGIN LOGOGRAM MARK,2A410A END LOGOGRAM MARK,2A411,2A412,2A413",
    "2A414,2A415,2A416,2A417,2A418,2A419,2A420,2A421,2A422,2A423,2A424,2A425",
    "2A426,2A427,2A428,2A429,2A430,2A431,2A432,2A433,2A434,2A435,2A436,2A437",
    "2A438,2A439,2A440,2A441,2A442,2A443,2A444,2A445,2A446,2A447,2A448,2A449",
    "2A450,2A450A,2A451,2A452,2A453,2A454,2A455,2A456,2A457,2A457A,2A458,2A459",
    "2A460,2A461,2A462,2A463,2A464,2A465,2A466,2A467,2A468,2A469,2A470,2A471",
    "2A472,2A473,2A474,2A475,2A476,2A477,2A478,2A479,2A480,2A481,2A482,2A483",
    "2A484,2A485,2A486,2A487,2A488,2A489,2A490,2A491,2A492,2A493,2A494,2A495",
    "2A496,2A497,2A501,2A502,2A503,2A504,2A505,2A506,2A507,2A508,2A509,2A510",
    "2A511,2A512,2A513,2A514,2A515,2A516,2A517,2A518,2A519,2A520,2A521,2A522",
    "2A523,2A524,2A525,2A526,2A527,2A528,2A529,2A530,0ANATOMICAL HEART,0ANCHOR",
    "0AND WITH DOT,0ANGER SYMBOL,0ANGLE,1WITH S INSIDE,2UNDERBAR,0ANGRY FACE",
    "0ANGSTROM SIGN,0ANGUISHED FACE,0ANKH,0ANT,0ANTENNA WITH BARS",
    "0ANTICLOCKWISE CLOSED CIRCLE ARROW,1CONTOUR INTEGRAL",
    "1DOWNWARDS AND UPWARDS OPEN CIRCLE ARROWS,1GAPPED CIRCLE ARROW",
    "1INTEGRATION,1OPEN CIRCLE ARROW,1TOP SEMICIRCLE ARROW",
    "1TRIANGLE-HEADED BOTTOM U-SHAPED ARROW,2LEFT U-SHAPED ARROW",
    "2OPEN CIRCLE ARROW,2RIGHT U-SHAPED ARROW,2TOP U-SHAPED ARROW,0APC",
    "0APL FUNCTIONAL SYMBOL ALPHA,4UNDERBAR,3BACKSLASH BAR,3CIRCLE BACKSLASH",
    "4DIAERESIS,4JOT,4STAR,4STILE,4UNDERBAR,3COMMA BAR,3DEL DIAERESIS,4STILE",
    "4TILDE,3DELTA STILE,4UNDERBAR,3DIAMOND UNDERBAR,3DOWN CARET TILDE",
    "4SHOE STILE,4TACK JOT,5UNDERBAR,3DOWNWARDS VANE,3EPSILON UNDERBAR",
    "3GREATER-THAN DIAERESIS,3I-BEAM,3IOTA,4UNDERBAR,3JOT DIAERESIS,4UNDERBAR",
    "3LEFT SHOE STILE,3LEFTWARDS VANE,3OMEGA,4UNDERBAR,3QUAD,4BACKSLASH",
    "4CIRCLE,4COLON,4DEL,4DELTA,4DIAMOND,4DIVIDE,4DOWN CARET,4DOWNWARDS ARROW",
    "4EQUAL,4GREATER-THAN,4JOT,4LEFTWARDS ARROW,4LESS-THAN,4NOT EQUAL",
    "4QUESTION,4RIGHTWARDS ARROW,4SLASH,4UP CARET,4UPWARDS ARROW,3QUOTE QUAD",
    "4UNDERBAR,3RHO,3RIGHTWARDS VANE,3SEMICOLON UNDERBAR,3SLASH BAR",
    "3SQUISH QUAD,3STAR DIAERESIS,3STILE TILDE,3TILDE DIAERESIS",
    "3UP CARET TILDE,4SHOE JOT,4TACK DIAERESIS,5JOT,5OVERBAR,3UPWARDS VANE",
    "3ZILDE,0APOLLON,0APOSTROPHE,0APPLICATION PROGRAM COMMAND",
    "0APPROACHES THE LIMIT,0APPROXIMATELY BUT NOT ACTUALLY EQUAL TO",
    "1EQUAL OR EQUAL TO,2TO,3OR THE IMAGE OF,0AQUARIUS",
    "0ARABIC BASELINE ROUND DOT,1COMMA,1CURLY DAMMA,2DAMMATAN,2FATHA,2FATHATAN",
    "2KASRA,2KASRATAN,1DAMMA,2ISOLATED FORM,2MEDIAL FORM,2WITH DOT,1DAMMATAN",
    "2ISOLATED FORM,1DATE SEPARATOR,1DECIMAL SEPARATOR,1DISPUTED END OF AYAH",
    "1DOUBLE RIGHT ARROWHEAD ABOVE,5WITH DOT,1DOUBLED MADDA",
    "1EMPTY CENTRE HIGH STOP,3LOW STOP,1END OF AYAH,3TEXT MARK,1FATHA",
    "2ISOLATED FORM,2MEDIAL FORM,2WITH DOT ABOVE,3RING,3TWO DOTS,1FATHATAN",
    "2ISOLATED FORM,1FIVE POINTED STAR,1FOOTNOTE MARKER,1FULL STOP",
    "1HALF MADDA OVER MADDA,1HAMZA ABOVE,2BELOW,1INVERTED DAMMA,1KASRA",
    "2ISOLATED FORM,2MEDIAL FORM,2WITH DOT BELOW,1KASRATAN,2ISOLATED FORM",
    "1LARGE CIRCLE BELOW,2ROUND DOT ABOVE,4BELOW,4INSIDE CIRCLE BELOW",
    "1LEFT ARROWHEAD ABOVE,3BELOW,1LETTER AE,2AFRICAN FEH,3NOON,3QAF",
    "4WITH THREE DOTS ABOVE,2AIN,3FINAL FORM,3INITIAL FORM,3ISOLATED FORM",
    "3MEDIAL FORM,3WITH THREE DOTS ABOVE,6BELOW,6POINTING DOWNWARDS ABOVE",
    "4TWO DOTS ABOVE,6VERTICALLY ABOVE,2ALEF,3FINAL FORM,3ISOLATED FORM",
    "3MAKSURA,4FINAL FORM,4ISOLATED FORM,3WASLA,4FINAL FORM,4ISOLATED FORM",
    "3WITH ATTACHED BOTTOM RIGHT KASRA,8AND DOT ABOVE,9LEFT RING,5FATHA,5KASRA",
    "5LEFT HAMZA,6ROUND DOT,5RIGHT HAMZA,6ROUND DOT,5ROUND DOT ABOVE,7BELOW",
    "5TOP RIGHT FATHA,8AND DOT ABOVE,9LEFT RING,4DOT ABOVE",
    "4EXTENDED ARABIC-INDIC DIGIT THREE ABOVE,7TWO ABOVE,4HAMZA ABOVE",
    "6FINAL FORM,6ISOLATED FORM,5BELOW,6FINAL FORM,6ISOLATED FORM",
    "4LEFT MIDDLE STROKE,4MADDA ABOVE,6FINAL FORM,6ISOLATED FORM",
    "4RIGHT MIDDLE STROKE,7AND DOT ABOVE,8LEFT RING,4WAVY HAMZA ABOVE,6BELOW",
    "2BEEH,3FINAL FORM,3INITIAL FORM,3ISOLATED FORM,3MEDIAL FORM,2BEH",
    "3FINAL FORM,3INITIAL FORM,3ISOLATED FORM,3MEDIAL FORM",
    "3WITH DOT BELOW AND THREE DOTS ABOVE,4HAMZA ABOVE,4INVERTED SMALL V BELOW",
    "4SMALL MEEM ABOVE,5V,6BELOW,4THREE DOTS HORIZONTALLY BELOW",
    "6POINTING UPWARDS BELOW,9AND TWO DOTS ABOVE,4TWO DOTS BELOW AND DOT ABOVE",
    "2BEHEH,3FINAL FORM,3INITIAL FORM,3ISOLATED FORM,3MEDIAL FORM,2DAD",
    "3FINAL FORM,3INITIAL FORM,3ISOLATED FORM,3MEDIAL FORM,3WITH DOT BELOW",
    "2DAHAL,3FINAL FORM,3ISOLATED FORM,2DAL,3FINAL FORM,3ISOLATED FORM",
    "3WITH DOT BELOW,6AND SMALL TAH,4FOUR DOTS ABOVE,4INVERTED SMALL V BELOW",
    "5V,4RING,4THREE DOTS ABOVE DOWNWARDS,6BELOW",
    "4TWO DOTS VERTICALLY BELOW AND SMALL TAH,2DDAHAL,3FINAL FORM",
    "3ISOLATED FORM,2DDAL,3FINAL FORM,3ISOLATED FORM,2DOTLESS BEH,3FEH,3QAF",
    "2DUL,3FINAL FORM,3ISOLATED FORM,2DYEH,3FINAL FORM,3INITIAL FORM",
    "3ISOLATED FORM,3MEDIAL FORM,2E,3FINAL FORM,3INITIAL FORM,3ISOLATED FORM",
    "3MEDIAL FORM,2FARSI YEH,4FINAL FORM,4INITIAL FORM,4ISOLATED FORM",
    "4MEDIAL FORM,4WITH EXTENDED ARABIC-INDIC DIGIT FOUR BELOW,8THREE ABOVE",
    "8TWO ABOVE,5INVERTED V,5THREE DOTS ABOVE,5TWO DOTS ABOVE,2FEH,3FINAL FORM",
    "3INITIAL FORM,3ISOLATED FORM,3MEDIAL FORM,3WITH DOT BELOW",
    "6AND THREE DOTS ABOVE,5MOVED BELOW,4THREE DOTS BELOW",
    "6POINTING UPWARDS BELOW,4TWO DOTS BELOW,2GAF,3FINAL FORM,3INITIAL FORM",
    "3ISOLATED FORM,3MEDIAL FORM,3WITH INVERTED STROKE,4RING,4THREE DOTS ABOVE",
    "4TWO DOTS BELOW,2GHAIN,3FINAL FORM,3INITIAL FORM,3ISOLATED FORM",
    "3MEDIAL FORM,3WITH DOT BELOW,4THREE DOTS ABOVE,2GRAF,2GUEH,3FINAL FORM",
    "3INITIAL FORM,3ISOLATED FORM,3MEDIAL FORM,2HAH,3FINAL FORM,3INITIAL FORM",
    "3ISOLATED FORM,3MEDIAL FORM,3WITH EXTENDED ARABIC-INDIC DIGIT FOUR BELOW",
    "4HAMZA ABOVE,4INVERTED SMALL V BELOW,4SMALL ARABIC LETTER TAH ABOVE",
    "8AND TWO DOTS,8BELOW,4THREE DOTS ABOVE,6POINTING UPWARDS BELOW",
    "4TWO DOTS ABOVE,6VERTICAL ABOVE,2HAMZA,3ISOLATED FORM,2HEH,3DOACHASHMEE",
    "4FINAL FORM,4INITIAL FORM,4ISOLATED FORM,4MEDIAL FORM,3FINAL FORM,3GOAL",
    "4FINAL FORM,4INITIAL FORM,4ISOLATED FORM,4MEDIAL FORM,4WITH HAMZA ABOVE",
    "3INITIAL FORM,3ISOLATED FORM,3MEDIAL FORM,3WITH INVERTED V,4YEH ABOVE",
    "6FINAL FORM,6ISOLATED FORM,2HIGH HAMZA,4ALEF,4WAW,4YEH,2JEEM,3FINAL FORM",
    "3INITIAL FORM,3ISOLATED FORM,3MEDIAL FORM,3WITH THREE DOTS ABOVE,6BELOW",
    "4TWO DOTS ABOVE,2JEH,3FINAL FORM,3ISOLATED FORM,2KAF,3FINAL FORM",
    "3INITIAL FORM,3ISOLATED FORM,3MEDIAL FORM,3WITH DOT ABOVE,5BELOW,4RING",
    "4THREE DOTS BELOW,4TWO DOTS ABOVE,2KASHMIRI YEH,2KEHEH,3FINAL FORM",
    "3INITIAL FORM,3ISOLATED FORM,3MEDIAL FORM,3WITH DOT ABOVE,4SMALL V",
    "4THREE DOTS ABOVE,6BELOW,6POINTING UPWARDS BELOW,4TWO DOTS ABOVE",
    "6VERTICALLY BELOW,2KHAH,3FINAL FORM,3INITIAL FORM,3ISOLATED FORM",
    "3MEDIAL FORM,2KIRGHIZ OE,4FINAL FORM,4ISOLATED FORM,3YU,4FINAL FORM",
    "4ISOLATED FORM,2LAM,3FINAL FORM,3INITIAL FORM,3ISOLATED FORM,3MEDIAL FORM",
    "3WITH BAR,4DOT ABOVE,4DOUBLE BAR,4SMALL ARABIC LETTER TAH ABOVE,5V",
    "4THREE DOTS ABOVE,6BELOW,2LOW ALEF,2MARK,2MEEM,3FINAL FORM,3INITIAL FORM",
    "3ISOLATED FORM,3MEDIAL FORM,3WITH DOT ABOVE,5BELOW,4THREE DOTS ABOVE,2NG",
    "3FINAL FORM,3INITIAL FORM,3ISOLATED FORM,3MEDIAL FORM,2NGOEH,3FINAL FORM",
    "3INITIAL FORM,3ISOLATED FORM,3MEDIAL FORM,2NOON,3FINAL FORM,3GHUNNA",
    "4FINAL FORM,4ISOLATED FORM,3INITIAL FORM,3ISOLATED FORM,3MEDIAL FORM",
    "3WITH DOT BELOW,4INVERTED SMALL V,4RING,4SMALL TAH,5V,4THREE DOTS ABOVE",
    "4TWO DOTS BELOW,2NYEH,3FINAL FORM,3INITIAL FORM,3ISOLATED FORM",
    "3MEDIAL FORM,2OE,3FINAL FORM,3ISOLATED FORM,2PEH,3FINAL FORM",
    "3INITIAL FORM,3ISOLATED FORM,3MEDIAL FORM,3WITH SMALL MEEM ABOVE,5V",
    "2PEHEH,3FINAL FORM,3INITIAL FORM,3ISOLATED FORM,3MEDIAL FORM,2QAF",
    "3FINAL FORM,3INITIAL FORM,3ISOLATED FORM,3MEDIAL FORM,3WITH DOT ABOVE",
    "5BELOW,6AND NO DOTS ABOVE,4THREE DOTS ABOVE,2REH,3FINAL FORM",
    "3ISOLATED FORM,3WITH DOT BELOW,6AND DOT ABOVE,4FOUR DOTS ABOVE",
    "4HAMZA ABOVE,4INVERTED V,4LOOP,4RING",
    "4SMALL ARABIC LETTER TAH AND TWO DOTS,5NOON ABOVE,5V,6BELOW,4STROKE",
    "4TWO DOTS ABOVE,6VERTICALLY ABOVE,2RNOON,3FINAL FORM,3INITIAL FORM",
    "3ISOLATED FORM,3MEDIAL FORM,2ROHINGYA YEH,2RREH,3FINAL FORM",
    "3ISOLATED FORM,2SAD,3FINAL FORM,3INITIAL FORM,3ISOLATED FORM,3MEDIAL FORM",
    "3WITH THREE DOTS ABOVE,6BELOW,4TWO DOTS BELOW,2SEEN,3FINAL FORM",
    "3INITIAL FORM,3ISOLATED FORM,3MEDIAL FORM,3WITH DOT BELOW AND DOT ABOVE",
    "4EXTENDED ARABIC-INDIC DIGIT FOUR ABOVE,4FOUR DOTS ABOVE,4INVERTED V",
    "4SMALL ARABIC LETTER TAH AND TWO DOTS,4THREE DOTS BELOW",
    "7AND THREE DOTS ABOVE,4TWO DOTS VERTICALLY ABOVE,2SHEEN,3FINAL FORM",
    "3INITIAL FORM,3ISOLATED FORM,3MEDIAL FORM,3WITH DOT BELOW,2STRAIGHT WAW",
    "2SUPERSCRIPT ALEF,2SWASH KAF,2TAH,3FINAL FORM,3INITIAL FORM",
    "3ISOLATED FORM,3MEDIAL FORM,3WITH DOT BELOW,4THREE DOTS ABOVE,6BELOW",
    "4TWO DOTS ABOVE,2TCHEH,3FINAL FORM,3INITIAL FORM,3ISOLATED FORM",
    "3MEDIAL FORM,3WITH DOT ABOVE,4SMALL V,2TCHEHEH,3FINAL FORM,3INITIAL FORM",
    "3ISOLATED FORM,3MEDIAL FORM,2TEH,3FINAL FORM,3INITIAL FORM,3ISOLATED FORM",
    "3MARBUTA,4FINAL FORM,4GOAL,4ISOLATED FORM,3MEDIAL FORM,3WITH RING",
    "4SMALL TEH ABOVE,5V,4THREE DOTS ABOVE DOWNWARDS,2TEHEH,3FINAL FORM",
    "3INITIAL FORM,3ISOLATED FORM,3MEDIAL FORM,2THAL,3FINAL FORM",
    "3ISOLATED FORM,2THEH,3FINAL FORM,3INITIAL FORM,3ISOLATED FORM",
    "3MEDIAL FORM,2THIN YEH,2TTEH,3FINAL FORM,3INITIAL FORM,3ISOLATED FORM",
    "3MEDIAL FORM,3WITH SMALL V,2TTEHEH,3FINAL FORM,3INITIAL FORM",
    "3ISOLATED FORM,3MEDIAL FORM,2U,3FINAL FORM,3ISOLATED FORM",
    "3WITH HAMZA ABOVE,6ISOLATED FORM",
    "2UIGHUR KAZAKH KIRGHIZ ALEF MAKSURA INITIAL FORM,7MEDIAL FORM,2VE",
    "3FINAL FORM,3ISOLATED FORM,2VEH,3FINAL FORM,3INITIAL FORM,3ISOLATED FORM",
    "3MEDIAL FORM,2WAW,3FINAL FORM,3ISOLATED FORM,3WITH DOT ABOVE,5WITHIN",
    "4EXTENDED ARABIC-INDIC DIGIT THREE ABOVE,7TWO ABOVE,4HAMZA ABOVE",
    "6FINAL FORM,6ISOLATED FORM,4RING,4TWO DOTS ABOVE,2YEH,3BARREE,4FINAL FORM",
    "4ISOLATED FORM,4WITH EXTENDED ARABIC-INDIC DIGIT THREE ABOVE,8TWO ABOVE",
    "5HAMZA ABOVE,7FINAL FORM,7ISOLATED FORM,3FINAL FORM,3INITIAL FORM",
    "3ISOLATED FORM,3MEDIAL FORM,3WITH HAMZA ABOVE,6FINAL FORM,6INITIAL FORM",
    "6ISOLATED FORM,6MEDIAL FORM,4SMALL V,4TAIL,4THREE DOTS BELOW",
    "4TWO DOTS BELOW AND DOT ABOVE,8HAMZA ABOVE,8SMALL NOON ABOVE,2YU",
    "3FINAL FORM,3ISOLATED FORM,2ZAH,3FINAL FORM,3INITIAL FORM,3ISOLATED FORM",
    "3MEDIAL FORM,2ZAIN,3FINAL FORM,3ISOLATED FORM,3WITH INVERTED V ABOVE",
    "1LIGATURE AIN WITH ALEF MAKSURA FINAL FORM,6ISOLATED FORM",
    "4JEEM INITIAL FORM,5ISOLATED FORM,5WITH MEEM FINAL FORM,7INITIAL FORM",
    "4MEEM INITIAL FORM,5ISOLATED FORM,5WITH ALEF MAKSURA FINAL FORM",
    "6MEEM FINAL FORM,7INITIAL FORM,6YEH FINAL FORM,4YEH FINAL FORM",
    "5ISOLATED FORM,2AKBAR ISOLATED FORM,2ALAYHAA AS-SALAAM",
    "2ALAYHE ISOLATED FORM,2ALAYHI AS-SALAAM,3AS-SALAATU WAS-SALAAM",
    "2ALAYHIM AS-SALAAM,2ALAYHIMAA AS-SALAAM",
    "2ALEF MAKSURA WITH SUPERSCRIPT ALEF FINAL FORM,7ISOLATED FORM",
    "3WITH FATHATAN FINAL FORM,5ISOLATED FORM,2ALLAH ISOLATED FORM",
    "2AZZA WA JALL,2BEH WITH ALEF MAKSURA FINAL FORM,6ISOLATED FORM",
    "4HAH INITIAL FORM,5ISOLATED FORM,5WITH YEH FINAL FORM,4HEH INITIAL FORM",
    "5MEDIAL FORM,4JEEM INITIAL FORM,5ISOLATED FORM,4KHAH INITIAL FORM",
    "5ISOLATED FORM,5WITH YEH FINAL FORM,4MEEM FINAL FORM,5INITIAL FORM",
    "5ISOLATED FORM,5MEDIAL FORM,4NOON FINAL FORM,4REH FINAL FORM",
    "4YEH FINAL FORM,5ISOLATED FORM,4ZAIN FINAL FORM",
    "2BISMILLAH AR-RAHMAN AR-RAHEEM,2DAD WITH ALEF MAKSURA FINAL FORM",
    "6ISOLATED FORM,4HAH INITIAL FORM,5ISOLATED FORM",
    "5WITH ALEF MAKSURA FINAL FORM,6YEH FINAL FORM,4JEEM INITIAL FORM",
    "5ISOLATED FORM,4KHAH INITIAL FORM,5ISOLATED FORM,5WITH MEEM FINAL FORM",
    "7INITIAL FORM,4MEEM INITIAL FORM,5ISOLATED FORM,4REH FINAL FORM",
    "5ISOLATED FORM,4YEH FINAL FORM,5ISOLATED FORM",
    "2FEH WITH ALEF MAKSURA FINAL FORM,6ISOLATED FORM,4HAH INITIAL FORM",
    "5ISOLATED FORM,4JEEM INITIAL FORM,5ISOLATED FORM,4KHAH INITIAL FORM",
    "5ISOLATED FORM,5WITH MEEM FINAL FORM,7INITIAL FORM,4MEEM INITIAL FORM",
    "5ISOLATED FORM,5WITH YEH FINAL FORM,4YEH FINAL FORM,5ISOLATED FORM",
    "2GHAIN WITH ALEF MAKSURA FINAL FORM,6ISOLATED FORM,4JEEM INITIAL FORM",
    "5ISOLATED FORM,4MEEM INITIAL FORM,5ISOLATED FORM",
    "5WITH ALEF MAKSURA FINAL FORM,6MEEM FINAL FORM,6YEH FINAL FORM",
    "4YEH FINAL FORM,5ISOLATED FORM,2HAH WITH ALEF MAKSURA FINAL FORM",
    "6ISOLATED FORM,4JEEM INITIAL FORM,5ISOLATED FORM,5WITH YEH FINAL FORM",
    "4MEEM INITIAL FORM,5ISOLATED FORM,5WITH ALEF MAKSURA FINAL FORM",
    "6YEH FINAL FORM,4YEH FINAL FORM,5ISOLATED FORM",
    "2HEH WITH ALEF MAKSURA ISOLATED FORM,4JEEM INITIAL FORM,5ISOLATED FORM",
    "4MEEM INITIAL FORM,5ISOLATED FORM,5WITH JEEM INITIAL FORM",
    "6MEEM INITIAL FORM,4SUPERSCRIPT ALEF INITIAL FORM,4YEH ISOLATED FORM",
    "2JALLAJALALOUHOU,2JEEM WITH ALEF MAKSURA FINAL FORM,6ISOLATED FORM",
    "4HAH INITIAL FORM,5ISOLATED FORM,5WITH ALEF MAKSURA FINAL FORM",
    "6YEH FINAL FORM,4MEEM INITIAL FORM,5ISOLATED FORM",
    "5WITH ALEF MAKSURA FINAL FORM,6HAH FINAL FORM,7INITIAL FORM",
    "6YEH FINAL FORM,4YEH FINAL FORM,5ISOLATED FORM,2KAF WITH ALEF FINAL FORM",
    "5ISOLATED FORM,5MAKSURA FINAL FORM,6ISOLATED FORM,4HAH INITIAL FORM",
    "5ISOLATED FORM,4JEEM INITIAL FORM,5ISOLATED FORM,4KHAH INITIAL FORM",
    "5ISOLATED FORM,4LAM FINAL FORM,5INITIAL FORM,5ISOLATED FORM,5MEDIAL FORM",
    "4MEEM FINAL FORM,5INITIAL FORM,5ISOLATED FORM,5MEDIAL FORM",
    "5WITH MEEM FINAL FORM,7INITIAL FORM,6YEH FINAL FORM,4YEH FINAL FORM",
    "5ISOLATED FORM,2KHAH WITH ALEF MAKSURA FINAL FORM,6ISOLATED FORM",
    "4HAH ISOLATED FORM,4JEEM INITIAL FORM,5ISOLATED FORM,4MEEM INITIAL FORM",
    "5ISOLATED FORM,4YEH FINAL FORM,5ISOLATED FORM,2LAM WITH ALEF FINAL FORM",
    "5ISOLATED FORM,5MAKSURA FINAL FORM,6ISOLATED FORM",
    "5WITH HAMZA ABOVE FINAL FORM,8ISOLATED FORM,7BELOW FINAL FORM",
    "8ISOLATED FORM,6MADDA ABOVE FINAL FORM,8ISOLATED FORM,4HAH INITIAL FORM",
    "5ISOLATED FORM,5WITH ALEF MAKSURA FINAL FORM,6MEEM FINAL FORM",
    "7INITIAL FORM,6YEH FINAL FORM,4HEH INITIAL FORM,4JEEM INITIAL FORM",
    "5ISOLATED FORM,5WITH JEEM FINAL FORM,7INITIAL FORM,6MEEM FINAL FORM",
    "7INITIAL FORM,6YEH FINAL FORM,4KHAH INITIAL FORM,5ISOLATED FORM",
    "5WITH MEEM FINAL FORM,7INITIAL FORM,4MEEM FINAL FORM,5INITIAL FORM",
    "5ISOLATED FORM,5MEDIAL FORM,5WITH HAH FINAL FORM,7INITIAL FORM",
    "6YEH FINAL FORM,4YEH FINAL FORM,5ISOLATED FORM,2MEEM WITH ALEF FINAL FORM",
    "5MAKSURA ISOLATED FORM,4HAH INITIAL FORM,5ISOLATED FORM",
    "5WITH JEEM INITIAL FORM,6MEEM INITIAL FORM,6YEH FINAL FORM",
    "4JEEM INITIAL FORM,5ISOLATED FORM,5WITH HAH INITIAL FORM",
    "6KHAH INITIAL FORM,6MEEM INITIAL FORM,6YEH FINAL FORM,4KHAH INITIAL FORM",
    "5ISOLATED FORM,5WITH JEEM INITIAL FORM,6MEEM INITIAL FORM,6YEH FINAL FORM",
    "4MEEM FINAL FORM,5INITIAL FORM,5ISOLATED FORM,5WITH YEH FINAL FORM",
    "4YEH ISOLATED FORM,2MOHAMMAD ISOLATED FORM",
    "2NOON WITH ALEF MAKSURA FINAL FORM,6ISOLATED FORM,4HAH INITIAL FORM",
    "5ISOLATED FORM,5WITH ALEF MAKSURA FINAL FORM,6MEEM INITIAL FORM",
    "6YEH FINAL FORM,4HEH INITIAL FORM,5MEDIAL FORM,4JEEM INITIAL FORM",
    "5ISOLATED FORM,5WITH ALEF MAKSURA FINAL FORM,6HAH FINAL FORM",
    "7INITIAL FORM,6MEEM FINAL FORM,7INITIAL FORM,6YEH FINAL FORM",
    "4KHAH INITIAL FORM,5ISOLATED FORM,4MEEM FINAL FORM,5INITIAL FORM",
    "5ISOLATED FORM,5MEDIAL FORM,5WITH ALEF MAKSURA FINAL FORM,6YEH FINAL FORM",
    "4NOON FINAL FORM,4REH FINAL FORM,4YEH FINAL FORM,5ISOLATED FORM",
    "4ZAIN FINAL FORM,2QAF WITH ALEF MAKSURA FINAL FORM,6ISOLATED FORM",
    "4HAH INITIAL FORM,5ISOLATED FORM,4MEEM INITIAL FORM,5ISOLATED FORM",
    "5WITH HAH FINAL FORM,7INITIAL FORM,6MEEM FINAL FORM,6YEH FINAL FORM",
    "4YEH FINAL FORM,5ISOLATED FORM",
    "2QALA USED AS KORANIC STOP SIGN ISOLATED FORM,2QUDDISA SIRRAH",
    "2RADI ALLAAHU ANH,4ANHAA,4ANHUM,4ANHUMAA,4ANHUNNA,2RAHIMAHU ALLAAH",
    "2RAHIMAHUM ALLAAH,2RASOUL ISOLATED FORM",
    "2REH WITH SUPERSCRIPT ALEF ISOLATED FORM",
    "2SAD WITH ALEF MAKSURA FINAL FORM,6ISOLATED FORM,4HAH INITIAL FORM",
    "5ISOLATED FORM,5WITH HAH FINAL FORM,7INITIAL FORM,6YEH FINAL FORM",
    "4KHAH INITIAL FORM,4MEEM INITIAL FORM,5ISOLATED FORM",
    "5WITH MEEM FINAL FORM,7INITIAL FORM,4REH FINAL FORM,5ISOLATED FORM",
    "4YEH FINAL FORM,5ISOLATED FORM,2SALAAMUHU ALAYNAA,2SALAM ISOLATED FORM",
    "2SALLA ISOLATED FORM,3USED AS KORANIC STOP SIGN ISOLATED FORM",
    "2SALLALLAAHU ALAYHI WA-AALIH,2SALLALLAHOU ALAYHE WASALLAM",
    "2SALLALLAHU ALAYHI WAAALIHEE WA-SALLAM,2SEEN WITH ALEF MAKSURA FINAL FORM",
    "6ISOLATED FORM,4HAH INITIAL FORM,5ISOLATED FORM,5MEDIAL FORM",
    "5WITH JEEM INITIAL FORM,4HEH INITIAL FORM,5MEDIAL FORM,4JEEM INITIAL FORM",
    "5ISOLATED FORM,5MEDIAL FORM,5WITH ALEF MAKSURA FINAL FORM",
    "6HAH INITIAL FORM,4KHAH INITIAL FORM,5ISOLATED FORM,5MEDIAL FORM",
    "5WITH ALEF MAKSURA FINAL FORM,6YEH FINAL FORM,4MEEM INITIAL FORM",
    "5ISOLATED FORM,5MEDIAL FORM,5WITH HAH FINAL FORM,7INITIAL FORM",
    "6JEEM INITIAL FORM,6MEEM FINAL FORM,7INITIAL FORM,4REH FINAL FORM",
    "5ISOLATED FORM,4YEH FINAL FORM,5ISOLATED FORM",
    "2SHADDA WITH DAMMA ISOLATED FORM,5MEDIAL FORM,4DAMMATAN ISOLATED FORM",
    "4FATHA ISOLATED FORM,5MEDIAL FORM,4KASRA ISOLATED FORM,5MEDIAL FORM",
    "4KASRATAN ISOLATED FORM,4SUPERSCRIPT ALEF ISOLATED FORM",
    "2SHEEN WITH ALEF MAKSURA FINAL FORM,6ISOLATED FORM,4HAH FINAL FORM",
    "5INITIAL FORM,5ISOLATED FORM,5MEDIAL FORM,5WITH MEEM FINAL FORM",
    "7INITIAL FORM,6YEH FINAL FORM,4HEH INITIAL FORM,5MEDIAL FORM",
    "4JEEM FINAL FORM,5INITIAL FORM,5ISOLATED FORM,5MEDIAL FORM",
    "5WITH YEH FINAL FORM,4KHAH FINAL FORM,5INITIAL FORM,5ISOLATED FORM",
    "5MEDIAL FORM,4MEEM FINAL FORM,5INITIAL FORM,5ISOLATED FORM,5MEDIAL FORM",
    "5WITH KHAH FINAL FORM,7INITIAL FORM,6MEEM FINAL FORM,7INITIAL FORM",
    "4REH FINAL FORM,5ISOLATED FORM,4YEH FINAL FORM,5ISOLATED FORM",
    "2SUBHAANAHU WA TAAALAA,2TABAARAKA WA-TAAALAA",
    "2TAH WITH ALEF MAKSURA FINAL FORM,6ISOLATED FORM,4HAH INITIAL FORM",
    "5ISOLATED FORM,4MEEM INITIAL FORM,5ISOLATED FORM,5MEDIAL FORM",
    "5WITH HAH FINAL FORM,7INITIAL FORM,6MEEM INITIAL FORM,6YEH FINAL FORM",
    "4YEH FINAL FORM,5ISOLATED FORM,2TEH WITH ALEF MAKSURA FINAL FORM",
    "6ISOLATED FORM,4HAH INITIAL FORM,5ISOLATED FORM,5WITH JEEM FINAL FORM",
    "7INITIAL FORM,6MEEM INITIAL FORM,4HEH INITIAL FORM,5MEDIAL FORM",
    "4JEEM INITIAL FORM,5ISOLATED FORM,5WITH ALEF MAKSURA FINAL FORM",
    "6MEEM INITIAL FORM,6YEH FINAL FORM,4KHAH INITIAL FORM,5ISOLATED FORM",
    "5WITH ALEF MAKSURA FINAL FORM,6MEEM INITIAL FORM,6YEH FINAL FORM",
    "4MEEM FINAL FORM,5INITIAL FORM,5ISOLATED FORM,5MEDIAL FORM",
    "5WITH ALEF MAKSURA FINAL FORM,6HAH INITIAL FORM,6JEEM INITIAL FORM",
    "6KHAH INITIAL FORM,6YEH FINAL FORM,4NOON FINAL FORM,4REH FINAL FORM",
    "4YEH FINAL FORM,5ISOLATED FORM,4ZAIN FINAL FORM",
    "2THAL WITH SUPERSCRIPT ALEF ISOLATED FORM",
    "2THEH WITH ALEF MAKSURA FINAL FORM,6ISOLATED FORM,4HEH MEDIAL FORM",
    "4JEEM ISOLATED FORM,4MEEM FINAL FORM,5INITIAL FORM,5ISOLATED FORM",
    "5MEDIAL FORM,4NOON FINAL FORM,4REH FINAL FORM,4YEH FINAL FORM",
    "5ISOLATED FORM,4ZAIN FINAL FORM",
    "2UIGHUR KIRGHIZ YEH WITH HAMZA ABOVE WITH ALEF MAKSURA FINAL FORM",
    "9ALEF MAKSURA INITIAL FORM,9ALEF MAKSURA ISOLATED FORM",
    "2WASALLAM ISOLATED FORM,2YEH WITH ALEF MAKSURA FINAL FORM,6ISOLATED FORM",
    "4HAH INITIAL FORM,5ISOLATED FORM,5WITH YEH FINAL FORM",
    "4HAMZA ABOVE WITH AE FINAL FORM,8ISOLATED FORM,7ALEF FINAL FORM",
    "8ISOLATED FORM,8MAKSURA FINAL FORM,9ISOLATED FORM,7E FINAL FORM",
    "8INITIAL FORM,8ISOLATED FORM,7HAH INITIAL FORM,8ISOLATED FORM",
    "7HEH INITIAL FORM,8MEDIAL FORM,7JEEM INITIAL FORM,8ISOLATED FORM",
    "7KHAH INITIAL FORM,7MEEM FINAL FORM,8INITIAL FORM,8ISOLATED FORM",
    "8MEDIAL FORM,7NOON FINAL FORM,7OE FINAL FORM,8ISOLATED FORM",
    "7REH FINAL FORM,7U FINAL FORM,8ISOLATED FORM,7WAW FINAL FORM",
    "8ISOLATED FORM,7YEH FINAL FORM,8ISOLATED FORM,7YU FINAL FORM",
    "8ISOLATED FORM,7ZAIN FINAL FORM,4HEH INITIAL FORM,5MEDIAL FORM",
    "4JEEM INITIAL FORM,5ISOLATED FORM,5WITH YEH FINAL FORM,4KHAH INITIAL FORM",
    "5ISOLATED FORM,4MEEM FINAL FORM,5INITIAL FORM,5ISOLATED FORM,5MEDIAL FORM",
    "5WITH MEEM FINAL FORM,7INITIAL FORM,6YEH FINAL FORM,4NOON FINAL FORM",
    "4REH FINAL FORM,4YEH FINAL FORM,5ISOLATED FORM,4ZAIN FINAL FORM",
    "2ZAH WITH MEEM INITIAL FORM,5ISOLATED FORM,5MEDIAL FORM,1MADDA WAAJIB",
    "1MADDAH ABOVE,1MARK NOON GHUNNA,2SIDEWAYS NOON GHUNNA,1MATHEMATICAL AIN",
    "2ALEF,2BEH,2DAD,2DAL,2DOTLESS BEH,3FEH,3NOON,3QAF,2DOUBLE-STRUCK AIN,3BEH",
    "3DAD,3DAL,3FEH,3GHAIN,3HAH,3JEEM,3KHAH,3LAM,3MEEM,3NOON,3QAF,3REH,3SAD",
    "3SEEN,3SHEEN,3TAH,3TEH,3THAL,3THEH,3WAW,3YEH,3ZAH,3ZAIN,2FEH,2GHAIN,2HAH",
    "2INITIAL AIN,3BEH,3DAD,3FEH,3GHAIN,3HAH,3HEH,3JEEM,3KAF,3KHAH,3LAM,3MEEM",
    "3NOON,3QAF,3SAD,3SEEN,3SHEEN,3TEH,3THEH,3YEH,2JEEM,2KAF,2KHAH,2LAM",
    "2LOOPED AIN,3ALEF,3BEH,3DAD,3DAL,3FEH,3GHAIN,3HAH,3HEH,3JEEM,3KHAH,3LAM",
    "3MEEM,3NOON,3QAF,3REH,3SAD,3SEEN,3SHEEN,3TAH,3TEH,3THAL,3THEH,3WAW,3YEH",
    "3ZAH,3ZAIN,2MEEM,2NOON,2OPERATOR HAH WITH DAL,3MEEM WITH HAH WITH TATWEEL",
    "2QAF,2REH,2SAD,2SEEN,2SHEEN,2STRETCHED AIN,3BEH,3DAD,3DOTLESS BEH,4FEH",
    "3FEH,3GHAIN,3HAH,3HEH,3JEEM,3KAF,3KHAH,3MEEM,3NOON,3QAF,3SAD,3SEEN,3SHEEN",
    "3TAH,3TEH,3THEH,3YEH,3ZAH,2TAH,2TAILED AIN,3DAD,3DOTLESS NOON,4QAF,3GHAIN",
    "3HAH,3JEEM,3KHAH,3LAM,3NOON,3QAF,3SAD,3SEEN,3SHEEN,3YEH,2TEH,2THAL,2THEH",
    "2WAW,2YEH,2ZAH,2ZAIN,1NUMBER MARK ABOVE,2SIGN,1OPEN DAMMATAN,2FATHATAN",
    "2KASRATAN,1PERCENT SIGN,1PIASTRE MARK ABOVE,1PLACE OF SAJDAH",
    "1POETIC VERSE SIGN,1POUND MARK ABOVE,1QUESTION MARK,1RAISED ROUND DOT",
    "1RAY,1REVERSED DAMMA,1RIGHT ARROWHEAD ABOVE,4WITH DOT,3BELOW",
    "1ROUNDED HIGH STOP WITH FILLED CENTRE,1SEMICOLON,1SHADDA,2ISOLATED FORM",
    "2MEDIAL FORM,1SIGN ALAYHE ASSALLAM,2MISRA,2RADI ALLAHOU ANHU",
    "2RAHMATULLAH ALAYHE,2SAFHA,2SALLALLAHOU ALAYHE WASSALLAM,2SAMVAT,2SANAH",
    "2SINDHI AMPERSAND,3POSTPOSITION MEN,2TAKHALLUS,1SMALL DAMMA,2FARSI YEH",
    "2FATHA,2HIGH AIN,3DOTLESS HEAD OF KHAH,3FARSI YEH,3FOOTNOTE MARKER,3JEEM",
    "3LAM ALEF,3LIGATURE ALEF WITH LAM WITH YEH",
    "4QAF WITH LAM WITH ALEF MAKSURA,4SAD WITH LAM WITH ALEF MAKSURA,3MADDA",
    "3MEEM INITIAL FORM,4ISOLATED FORM,3NOON,4WITH KASRA,3QAF,3ROUNDED ZERO",
    "3SAD,3SEEN,3SIGN SAFHA,3TAH,3THREE DOTS,3UPRIGHT RECTANGULAR ZERO,3WAW",
    "3WORD AL-JUZ,4AN-NISF,4AR-RUB,4AS-SAJDA,4ATH-THALATHA,4QIF,4SAH,4SAKTA",
    "4WAQFA,3YEH,4BARREE WITH TWO DOTS BELOW,3ZAH,3ZAIN,2KASRA,2LOW MEEM",
    "3NOON WITH KASRA,3SEEN,3WAW,3WORD IMAALA,4ISHMAAM,4TASHEEL,2WAW,2YEH",
    "1START OF RUB EL HIZB,1SUBSCRIPT ALEF,1SUKUN,2BELOW,2ISOLATED FORM",
    "2MEDIAL FORM,1SUPERSCRIPT ALEF MOKHASSAS,1SYMBOL DOT ABOVE,3BELOW",
    "2DOUBLE VERTICAL BAR BELOW,2FOUR DOTS ABOVE,4BELOW,2RING,2SMALL TAH ABOVE",
    "4BELOW,2THREE DOTS ABOVE,4BELOW,4POINTING DOWNWARDS ABOVE,6BELOW",
    "2TWO DOTS ABOVE,4BELOW,4VERTICALLY ABOVE,5BELOW,2WASLA ABOVE",
    "1TAIL FRAGMENT,1TATWEEL,2WITH FATHATAN ABOVE,3OVERSTRUCK HAMZA,4WAW",
    "3TWO DOTS BELOW,1THOUSANDS SEPARATOR,1TONE LOOP ABOVE,3BELOW",
    "2ONE DOT ABOVE,4BELOW,2TWO DOTS ABOVE,4BELOW,1TRIPLE DOT PUNCTUATION MARK",
    "1TURNED DAMMA BELOW,1VERTICAL TAIL,1VOWEL SIGN DOT BELOW",
    "3INVERTED SMALL V ABOVE,3SMALL V ABOVE,1WAVY HAMZA BELOW,1ZWARAKAY",
    "0ARABIC-INDIC CUBE ROOT,1DIGIT EIGHT,2FIVE,2FOUR,2NINE,2ONE,2SEVEN,2SIX",
    "2THREE,2TWO,2ZERO,1FOURTH ROOT,1PER MILLE SIGN,2TEN THOUSAND SIGN,0ARC",
    "0ARIES,0ARMENIAN ABBREVIATION MARK,1APOSTROPHE,1CAPITAL LETTER AYB,3BEN",
    "3CA,3CHA,3CHEH,3CO,3DA,3ECH,3EH,3ET,3FEH,3GHAD,3GIM,3HO,3INI,3JA,3JHEH",
    "3KEH,3KEN,3LIWN,3MEN,3NOW,3OH,3PEH,3PIWR,3RA,3REH,3SEH,3SHA,3TIWN,3TO",
    "3VEW,3VO,3XEH,3YI,3YIWN,3ZA,3ZHE,1COMMA,1DRAM SIGN,1EMPHASIS MARK",
    "1EXCLAMATION MARK,1FULL STOP,1HYPHEN,1MODIFIER LETTER LEFT HALF RING",
    "1QUESTION MARK,1SMALL LETTER AYB,3BEN,3CA,3CHA,3CHEH,3CO,3DA,3ECH,3EH,3ET",
    "3FEH,3GHAD,3GIM,3HO,3INI,3JA,3JHEH,3KEH,3KEN,3LIWN,3MEN,3NOW,3OH,3PEH",
    "3PIWR,3RA,3REH,3SEH,3SHA,3TIWN,3TO,3TURNED AYB,3VEW,3VO,3XEH,3YI",
    "4WITH STROKE,3YIWN,3ZA,3ZHE,2LIGATURE ECH YIWN,3MEN ECH,4INI,4NOW,4XEH",
    "3VEW NOW,0ARROW POINTING DOWNWARDS THEN CURVING LEFTWARDS,5RIGHTWARDS",
    "2RIGHTWARDS THEN CURVING DOWNWARDS,5SOUTH WEST,5UPWARDS",
    "2UPWARDS THEN NORTH WEST,0ARROWHEAD-SHAPED POINTER,0ARTICULATED LORRY",
    "0ARTIST PALETTE,0ASCENDING NODE,0ASCIA SYMBOL,0ASSERTION,0ASTERISK",
    "1OPERATOR,0ASTERISM,0ASTONISHED FACE,0ASTRAEA",
    "0ASTRONOMICAL SYMBOL FOR URANUS,0ASYMPTOTICALLY EQUAL TO,0ATHLETIC SHOE",
    "0ATOM SYMBOL,0AUBERGINE,0AUSTRAL SIGN,0AUTO RICKSHAW",
    "0AUTOMATED TELLER MACHINE,0AUTOMOBILE,0AVESTAN ABBREVIATION MARK",
    "1LETTER A,2AA,2AAN,2AAO,2AE,2AEE,2AN,2AO,2BE,2BHE,2CE,2DE,2DHE,2E,2EE,2FE",
    "2GE,2GGE,2GHE,2HE,2HME,2I,2II,2JE,2KE,2LE,2ME,2NE,2NGE,2NGVE,2NGYE,2NNE",
    "2NYE,2O,2OO,2PE,2RE,2SE,2SHE,2SHYE,2SSHE,2TE,2THE,2TTE,2U,2UU,2VE,2XE",
    "2XVE,2XYE,2YE,2YYE,2ZE,2ZHE,0AVOCADO,0AXE,0BABY,1ANGEL,1BOTTLE,1CHICK",
    "1SYMBOL,0BACK OF ENVELOPE,1WITH LEFTWARDS ARROW ABOVE",
    "0BACK-TILTED SHADOWED WHITE RIGHTWARDS ARROW",
    "0BACKSLANTED SOUTH ARROW WITH HOOKED TAIL,4HORIZONTAL TAIL,0BACKSPACE",
    "0BACON,0BACTRIAN CAMEL,0BADGER,0BADMINTON RACQUET AND SHUTTLECOCK,0BAGEL",
    "0BAGGAGE CLAIM,0BAGUETTE BREAD,0BALINESE ADEG ADEG,1CARIK PAMUNGKAH",
    "2PAREREN,2SIKI,1DIGIT EIGHT,2FIVE,2FOUR,2NINE,2ONE,2SEVEN,2SIX,2THREE",
    "2TWO,2ZERO,1LETTER AIKARA,2AKARA,3TEDUNG,2ARCHAIC JNYA,2ASYURA SASAK,2BA",
    "3KEMBANG,2CA,3LACA,2DA,3MADU,3MURDA ALPAPRANA,4MAHAPRANA,2EF SASAK,2EKARA",
    "2GA,3GORA,2HA,2IKARA,3TEDUNG,2JA,3JERA,2KA,3MAHAPRANA,2KAF SASAK",
    "2KHOT SASAK,2LA,3LENGA,4TEDUNG,2MA,2NA,3RAMBAT,2NGA,2NYA,2OKARA,3TEDUNG",
    "2PA,3KAPAL,2RA,3REPA,4TEDUNG,2SA,3SAGA,3SAPA,2TA,3LATIK,3MURDA MAHAPRANA",
    "3TAWA,2TZIR SASAK,2UKARA,3TEDUNG,2VE SASAK,2WA,2YA,2ZAL SASAK",
    "1MUSICAL SYMBOL COMBINING BENDE,4ENDEP,4GONG,4JEGOGAN,4KEMPLI",
    "5WITH JEGOGAN,4KEMPUL,5WITH JEGOGAN,4TEGEH,3DAENG,3DAING,3DANG,4GEDE",
    "4SURANG,3DENG,3DEUNG,3DING,3DONG,3DUNG,3LEFT-HAND CLOSED PLAK,5PLUK",
    "4OPEN PANG,5PING,5PUNG,3RIGHT-HAND CLOSED TAK,5TUK,4OPEN DAG,5DUG,1PAMADA",
    "2LANTANG,1PAMENENG,1PANTI,2LANTANG,1SIGN BISAH,2CECEK,2REREKAN,2SURANG",
    "2ULU CANDRA,3RICEM,1VOWEL SIGN LA LENGA,5TEDUNG,3PEPET,4TEDUNG,3RA REPA",
    "5TEDUNG,3SUKU,4ILUT,3TALING,4REPA,5TEDUNG,4TEDUNG,3TEDUNG,3ULU,4SARI",
    "1WINDU,0BALL OF YARN,0BALLET SHOES,0BALLOON,0BALLOON-SPOKED ASTERISK",
    "0BALLOT BOLD SCRIPT X,1BOX,2WITH BALLOT,3BOLD CHECK,4SCRIPT X,3CHECK",
    "3LIGHT X,3SCRIPT X,3X,1SCRIPT X,1X,0BAMUM COLON,1COMBINING MARK KOQNDON",
    "3TUKWENTIS,1COMMA,1FULL STOP,1LETTER A,2EE,2FAAMAE,2FEE,2FOM,2FU,2I,2KA",
    "2KEN,2KET,2KEUX,2KI,2KO,2KOGHOM,2KOVUU,2KPA,2KU,2KYEE,2LA,2LEEEE,2LI,2LOQ",
    "2LU,2M,2MA,2MBAA,2MBEN,2MEEEE,2MEN,2MI,2MO,2MU,2NA,2NDAA,2NGA,2NGGA",
    "2NGKWAEN,2NI,2NJAEM,2NJEE,2NJUAE,2NSHA,2NTEE,2NTUU,2NU,2NUAE,2NYI,2O,2PA",
    "2PEE,2PEUX,2PHASE-A FIRI,3GBIEE FON,3GHEUAEGHEUAE,3GHEUAERAE,3KAFA,3KAQ",
    "3KET,3KEUKEUTNDA,3KPOQ,3KUOQ,3LAPAQ,3LET KUT,3LOMMAE,3LU,3LUAEP,3MAEKEUP",
    "3MAEM,3MAEMBGBIEE,3MAEMKPEN,3MAEMVEUX,3MAENYI,3MAESI,3MANSUAE,3MAP PIEET",
    "3MBANYI,3MBAQ,3MEUNJOMNDEUQ,3MGBASA,3MON NGGEUAET,3MOOMEUT,3MOOMPUQ",
    "3MVEUAENGAM,3NAA MFON,3NAQ,3NDA LEERAEWA,3NDAANGGEUAET,3NEN,3NGANGU",
    "3NGGEN,3NGKUE MFON,3NGKUENZEUM,3NIKA,3NJAM,3NKAARAE,3NKINDI,3NSHA,3NSHIEE",
    "3NTAP,4MFAA,4NTAA,3NTOQPEN,3NYET,3NYI,3NYIT MONGKEUAEQ,3NZA MFON",
    "3NZUN MEUT,3PA LEERAEWA,3PAAM,3PAARAE,3PAMSHAE,3PASHAE,3PET",
    "3PON MFON PIPAEMBA,5PIPAEMGBIEE,4PA NJI PIPAEMBA,6PIPAEMGBIEE,3PUP,3ROM",
    "3SEUNYAM,3SHINDA PA NJI,3SHIRAE,3SHOQ NSHUT YUM,3SHUENSHUET,3SHUM,3SISA",
    "3SONJAM,3SOQ,3SOT,3SUU,3TEUAEN,3TEUTEUWEN,3TITA MFON,3TU MAEMBA,3TUAEP",
    "3U YUQ NAE,3UNKNOWN,3VEE,2PHASE-B FEE,3FEUX,3GHEUGHEN,3GHEUGHEUAEM,3KAM",
    "3KEUAEM,3KEUPUQ,3KEUYEUX,3KIEEM,3KIQ,3LAANAE,3LAM NSHUT NYAM,3LET",
    "3LOM NTEUM,3MA,4NJEUAENA,4NJUQA,3MBA MAELEE,3MBAARAE,3MBEURI",
    "3MBIT MBAAKET,3MBUOQ,3MEUQ,3MEUT NGGEET,3MFIYAQ,3MFON TEUAEQ,3MONTIEEN",
    "3NDU NJAA,3NGGAAM,3NGGEU MBU,3NGGUOQ,4LARGE,3NGKINDI MVOP,3NGOM,3NSEN",
    "3NSHUET,3NTIEE SHEUOQ,3NYAEMAE,3NYI NTEUM,3PARUM,3PEESHI,3PIT,3PUNGAAM",
    "3SAKEUAE,3SET TU,3SHET NJAQ,3SHEUAEQTU,3SIEE,3SUE,3TAAM,3TU MAEMGBIEE",
    "4NSIEE,3VEUM,3WUAET,3YAFU LEERAEWA,3YEURAE,2PHASE-C BUNG,3FUE,3GBAYI",
    "3GHAP,3GHARAE,3KAA,3KEN FATIGUE,4LAW,3KET,3KEUKAQ,3KEUM,3KEUSEUX",
    "3KEUSHEUAEP,3KPARAQ,3KUOP NKAARAE,3KUT,3LAM,3LAP,3LIQ,3LU,3MA KEUAERI",
    "4NSIEE,3MAEMBA,3MAESI,3MBAA CABBAGE-TREE,4PICKET,3MBANYI,3MBEEKEET",
    "3MBERAE,3MBEUM,3MBEUX,3MBI,3MBIRIEEN,3MBIT,3MBUAEM,3MBUE,3MGBASAQ,3MIEE",
    "3MUAE,3NANSANAQ,3NAQ,3NDAM,3NDAP,3NDEUAEREE,3NDEUT,3NDIDA,3NDOMBU,3NGAQ",
    "3NGGEN,3NGGU,3NGGUAEN NYAM,3NGGUEET,3NGGUM,3NGGUON,3NGKAQ,3NGKUE MAEMBA",
    "3NGOM,3NJAEM,3NJAM,3NJEEEE,3NJEUX,3NJUEQ,3NSA,3NSEUAEN,3NSHAQ,3NSOM,3NSUN",
    "3NSUOT NGOM,3NTAA,3NTEN,3NTEUNGBA,3NTU MBIT,3NYIR MKPARAQ MEUN,3NZA",
    "3NZEUM,3PEN,3PIN,3PIRIEEN,3RU,3SETFON,3SEUX,3SHIQ,3SHUEQ,3SUAET,3TAASHAE",
    "3TET,3TEUTEUX,3TITA YUE,3TITUAEP,3VEUAEPEN,3VEUX,3WANGKUOQ,3WUP,3YAA",
    "3YEUQ,3YU MUOMAE,3YUM,3YUWOQ,2PHASE-D FAA,3FEUFEUAET,3GHAA,3GHEUAE,3KET",
    "3KEUAETMEUN,3KEUM,3KEUOT MBUAE,3KEUP,3KU,3KUN,3KUOM,3KUQ,3KWAET,3KYEE",
    "3LEEEE,3LET,3LEUAEP,3LEUM,3LIEE,3LOQ,3LUM,3M,3MAENJET,3MALEERI,3MBAA",
    "4SEVEN,3MBUO,3MEEEE,3MEUN,3MEUT,3MFEUAE,3MFEUT,3MFIEE,3MFO,3MFON,3MGBEUN",
    "3MGBIEE,3MGBOFUM,3MONI,3MU,3MVOP,3NDAM,3NDEE,3NDEUX,3NDON,3NGGAAM",
    "3NGGAAMAE,3NGGAP,3NGGEUX,3NGGUOM,3NGGWAEN,3NGKAP,3NGKEUAEQ,3NGKEURI",
    "3NGKIEE,3NGKUN,3NGKYEE,3NI,3NJAP,3NJEUAEM,3NJEUT,3NJI,3NJIEE,3NJUEQ",
    "3NSHEE,3NSHUT,3NSIEEP,3NSIEET,3NSUM,3NTEE,3NTEUM,3NTUU,3NU,3NYAM,3NYET",
    "3NYI,3NYUE,3PAP,3PEE,3PEUTAE,3PIP,3PUQ,3PUUT,3RAEM,3REN MUCH,4OLD,3RII",
    "3SAP,3SAQ,3SEUAEQ,3SHEE,3SHEUAE,3SHEUX,3SHII,3SHOQ,3SHU,3SOT,3SUAE,3SUE",
    "3SUU,3TAE,3TEEEE,3TEUAEN,3TEUN,3TEUT,3TI,3TOQ,3TU,3TUOT,3WAP,3WUAEN",
    "3YAEMMAE,3YEN,3YUOM,3YUOP,3YUWOQ,2PHASE-E A,3FA,3FAQ,3FEE,3FOM,3FU CALL",
    "4I,4REMEDY,3FUE,3FUET,3GBET,3GBEUX,3GHAAMAE,3GHET,3GHEUAE,3GHEUN,3GHEUX",
    "3GHOM,3I,3KET,3KEUAE,3KEUX,3KI,3KO,3KPEUX,3KUET,3KUOP,3KUT,3LAAM,3LAP",
    "3LAQ,3LEUAEM,3LOM,3LOON,3LOOT,3LOQ,3LU,3MA,3MAE,3MAEM,3MAP,3MAQ,3MBEE",
    "3MBEUM,3MEN,3MFEUQ,3MGBA,3MGBEN,3MI,3MIEE,3MON,3MUAE,3MVI,3NA,3NAE",
    "3NDAA MY HOUSE,4SOFTNESS,3NDAP,3NDIAQ,3NDIQ,3NDUN,3NGA,3NGEUREUT,3NGGEEEE",
    "3NGGEUAE,3NGGEUAET,3NGGUAESHAE NYAM,3NGGUP,3NGGURAE,3NGKA,3NGKAAMI",
    "3NGKEUAEM,3NGKEUX,3NGKUM,3NGKUP,3NGOP,3NGOQ,3NGUAE,3NGUAET,3NJAEMLI,3NJEE",
    "4EPOCH,3NJEUX,3NKOM,3NSHIEE,3NSHUE,3NSHUOP,3NTAP,3NTUM,3NYI BETWEEN",
    "4CLEAVER,3NZAQ,3NZUQ,3O,3PA PEOPLE,4PLURAL,3PAA,3PAAM,3PEEM,3PEUT,3PEUX",
    "3PI,3PIEEQ,3PIET,3PO,3POON,3PU,3PUAE,3PUAQ,3PUE,3PUM,3RAE,3RAQ,3REUX",
    "3RIMGBA,3SAA,3SEE,3SET,3SHEUAEQ,3SHIQ,3SHO,3SHOQ,3SOM,3SUAEN,3TAA,3TAAQ",
    "3TAEN NTEUM,3TAM,3TAQ,3TEN,3TEU,3TEUAEQ,3TOO,3TOON,3TOQ,3TUAE,3TUM,3TUMAE",
    "3VEE,3VEUAE,3VOM,3WEUX,3WUE,3WUO,3YAP,3YEUAE,3YEUAET,3YEUM,3YEUX,3YIEE",
    "3YIT,3YOQ COVER,4SWIMMING,3YUAEN,3YUEQ,3YUN,3YUQ,2PHASE-F EE,3FOM,3KA",
    "3KEN,3KET,3KO,3KPA,3KU,3KYEE,3LA,3LI,3LOQ,3M,3MA,3MBAA,3MBEN,3MEEEE,3MO",
    "3NDAA,3NGGA,3NGKWAEN,3NI,3NJAEM,3NJUAE,3NSHA,3NTEE,3NU,3NUAE,3NYI,3PEE",
    "3PEUX,3PUAE,3REE,3REN,3REUX,3RIEE,3RII,3RU,3SAMBA,3SEUX,3SHII,3SHO,3SHU",
    "3SI,3SUU,3TAA,3TAE,3TET,3U,3VUEQ,3WA,3WUE,3YA,3YOQ,2PI,2PUAE,2PUE,2RAE",
    "2REE,2REN,2REUX,2RIEE,2RII,2RU,2SAMBA,2SEUX,2SHEUX,2SHII,2SHO,2SHU,2SI",
    "2SUU,2TAA,2TAE,2TEN,2TET,2TI,2U,2WA,2WUE,2YA,2YOQ,2YUQ,1NJAEMLI",
    "1QUESTION MARK,1SEMICOLON,0BANANA,0BANJO,0BANK,0BANKNOTE WITH DOLLAR SIGN",
    "2EURO SIGN,2POUND SIGN,2YEN SIGN,0BAR CHART,1OF SOAP,0BARBER POLE",
    "0BASEBALL,0BASKET,0BASKETBALL AND HOOP,0BASSA VAH COMBINING HIGH TONE",
    "3HIGH-LOW TONE,3LOW TONE,3LOW-MID TONE,3MID TONE,2FULL STOP,2LETTER A,3BA",
    "3CE,3DHII,3DO,3E,3EE,3ENNI,3FA,3GAH,3GBU,3HWAH,3I,3JO,3KA,3KPAH,3MBE,3O",
    "3OO,3PA,3SE,3TO,3U,3UWU,3VU,3WA,3WADDA,3YEIN,3YIE,3ZO,0BAT",
    "0BATAK CONSONANT SIGN H,3NG,1LETTER A,2BA,2CA,2DA,2GA,2HA,2I,2JA,2KARO BA",
    "2LA,2MA,2MANDAILING HA,3NA,3SA,2MBA,2NA,2NDA,2NGA,2NORTHERN TA,2NYA,2PA",
    "2PAKPAK WA,2RA,2SA,2SIMALUNGUN A,3GA,3HA,3LA,3MA,3PA,3RA,3SA,3WA,3YA",
    "2SOUTHERN TA,2U,2WA,2YA,1PANGOLAT,1PANONGONAN,1SIGN TOMPI",
    "1SYMBOL BINDU JUDUL,3NA METEK,3PANGOLAT,3PINARBORAS,1VOWEL SIGN E,3EE,3I",
    "3KARO I,4O,3O,3PAKPAK E,3U,4FOR SIMALUNGUN SA,0BATH,0BATHTUB,0BATTERY",
    "0BEACH WITH UMBRELLA,0BEAMED ASCENDING MUSICAL NOTES",
    "1DESCENDING MUSICAL NOTES,1EIGHTH NOTES,1SIXTEENTH NOTES,0BEANS",
    "0BEAR FACE,0BEARDED PERSON,0BEATING HEART,0BEAVER,0BECAUSE,0BED,0BEER MUG",
    "0BEETLE,0BEL,0BELL,1PEPPER,1SYMBOL,1WITH CANCELLATION STROKE",
    "0BELLHOP BELL,0BENGALI ABBREVIATION SIGN,1ANJI,1AU LENGTH MARK",
    "1CURRENCY DENOMINATOR SIXTEEN,2NUMERATOR FOUR,3ONE",
    "4LESS THAN THE DENOMINATOR,3THREE,3TWO,1DIGIT EIGHT,2FIVE,2FOUR,2NINE",
    "2ONE,2SEVEN,2SIX,2THREE,2TWO,2ZERO,1GANDA MARK,1ISSHAR,1LETTER A,2AA,2AI",
    "2AU,2BA,2BHA,2CA,2CHA,2DA,2DDA,2DDHA,2DHA,2E,2GA,2GHA,2HA,2I,2II,2JA,2JHA",
    "2KA,2KHA,2KHANDA TA,2LA,2MA,2NA,2NGA,2NNA,2NYA,2O,2PA,2PHA,2RA",
    "3WITH LOWER DIAGONAL,4MIDDLE DIAGONAL,2RHA,2RRA,2SA,2SHA,2SSA,2TA,2THA",
    "2TTA,2TTHA,2U,2UU,2VEDIC ANUSVARA,2VOCALIC L,3LL,3R,3RR,2YA,2YYA",
    "1RUPEE MARK,2SIGN,1SANDHI MARK,1SIGN ANUSVARA,2AVAGRAHA,2CANDRABINDU",
    "2NUKTA,2VIRAMA,2VISARGA,1VOWEL SIGN AA,3AI,3AU,3E,3I,3II,3O,3U,3UU",
    "3VOCALIC L,4LL,4R,4RR,0BENT ARROW POINTING DOWNWARDS THEN NORTH EAST",
    "0BENTO BOX,0BENZENE RING,2WITH CIRCLE,0BET SYMBOL,0BETWEEN,0BEVERAGE BOX",
    "0BHAIKSUKI DANDA,1DIGIT EIGHT,2FIVE,2FOUR,2NINE,2ONE,2SEVEN,2SIX,2THREE",
    "2TWO,2ZERO,1DOUBLE DANDA,1GAP FILLER-1,2FILLER-2,1HUNDREDS UNIT MARK",
    "1LETTER A,2AA,2AI,2AU,2BA,2BHA,2CA,2CHA,2DA,2DDA,2DDHA,2DHA,2E,2GA,2GHA",
    "2HA,2I,2II,2JA,2JHA,2KA,2KHA,2LA,2MA,2NA,2NGA,2NNA,2NYA,2O,2PA,2PHA,2RA",
    "2SA,2SHA,2SSA,2TA,2THA,2TTA,2TTHA,2U,2UU,2VA,2VOCALIC L,3R,3RR,2YA",
    "1NUMBER EIGHT,2EIGHTY,2FIFTY,2FIVE,2FORTY,2FOUR,2NINE,2NINETY,2ONE,2SEVEN",
    "2SEVENTY,2SIX,2SIXTY,2TEN,2THIRTY,2THREE,2TWENTY,2TWO,1SIGN ANUSVARA",
    "2AVAGRAHA,2CANDRABINDU,2VIRAMA,2VISARGA,1VOWEL SIGN AA,3AI,3AU,3E,3I,3II",
    "3O,3U,3UU,3VOCALIC L,4R,4RR,1WORD SEPARATOR,0BICYCLE,0BICYCLIST",
    "0BIG REVERSE SOLIDUS,1SOLIDUS,0BIKINI,0BILLED CAP,0BILLIARDS",
    "0BIOHAZARD SIGN,0BIRD,0BIRTHDAY CAKE,0BISON,0BITCOIN SIGN,0BITING LIP",
    "0BLACK BOWTIE,1CENTRE WHITE STAR,1CHESS BISHOP,3ROTATED NINETY DEGREES",
    "4TWO HUNDRED SEVENTY DEGREES,2EQUIHOPPER,3ROTATED NINETY DEGREES,2KING",
    "3ROTATED NINETY DEGREES,4TWO HUNDRED SEVENTY DEGREES,2KNIGHT",
    "3ROTATED FORTY-FIVE DEGREES,4NINETY DEGREES",
    "4ONE HUNDRED THIRTY-FIVE DEGREES,4THREE HUNDRED FIFTEEN DEGREES",
    "4TWO HUNDRED SEVENTY DEGREES,6TWENTY-FIVE DEGREES,2KNIGHT-BISHOP",
    "2KNIGHT-QUEEN,2KNIGHT-ROOK,2PAWN,3ROTATED NINETY DEGREES",
    "4TWO HUNDRED SEVENTY DEGREES,2QUEEN,3ROTATED NINETY DEGREES",
    "4TWO HUNDRED SEVENTY DEGREES,2ROOK,3ROTATED NINETY DEGREES",
    "4TWO HUNDRED SEVENTY DEGREES,2TURNED BISHOP,3KING,3KNIGHT,3PAWN,3QUEEN",
    "3ROOK,1CIRCLE,2FOR RECORD,2WITH DOWN ARROW,3TWO WHITE DOTS",
    "3WHITE DOT RIGHT,1CLUB SUIT,1CROSS ON SHIELD",
    "1CURVED DOWNWARDS AND LEFTWARDS ARROW,4RIGHTWARDS ARROW",
    "2LEFTWARDS AND DOWNWARDS ARROW,4UPWARDS ARROW",
    "2RIGHTWARDS AND DOWNWARDS ARROW,4UPWARDS ARROW",
    "2UPWARDS AND LEFTWARDS ARROW,4RIGHTWARDS ARROW,1DIAMOND,2CENTRED",
    "2MINUS WHITE X,2ON CROSS,2SUIT,2WITH DOWN ARROW",
    "1DOWN POINTING BACKHAND INDEX,1DOWN-POINTING DOUBLE TRIANGLE",
    "2ISOSCELES RIGHT TRIANGLE,2SMALL TRIANGLE,2TRIANGLE",
    "1DOWNWARDS EQUILATERAL ARROWHEAD,1DRAUGHTS KING,2MAN,1DROPLET,1FLAG",
    "1FLORETTE,1FOLDER,1FOUR POINTED STAR,1HARD SHELL FLOPPY DISK,1HEART,2SUIT",
    "1HEXAGON,1HORIZONTAL ELLIPSE,1HOURGLASS,1LARGE CIRCLE,2SQUARE",
    "1LEFT LANE MERGE,2POINTING BACKHAND INDEX,3INDEX",
    "1LEFT-POINTING DOUBLE TRIANGLE,4WITH VERTICAL BAR",
    "2ISOSCELES RIGHT TRIANGLE,2POINTER,2SMALL TRIANGLE,2TRIANGLE",
    "1LEFTWARDS BULLET,2EQUILATERAL ARROWHEAD,1LOWER LEFT TRIANGLE",
    "2RIGHT TRIANGLE,1LOZENGE,1MEDIUM DIAMOND,2DOWN-POINTING TRIANGLE,4CENTRED",
    "2LEFT-POINTING TRIANGLE,4CENTRED,2LOZENGE,2RIGHT-POINTING TRIANGLE",
    "4CENTRED,2SMALL DIAMOND,3LOZENGE,3SQUARE,2SQUARE,2UP-POINTING TRIANGLE",
    "4CENTRED,1MOON LILITH,1NIB,1OCTAGON,1PARALLELOGRAM,1PENNANT,1PENTAGON",
    "1PUSHPIN,1QUESTION MARK ORNAMENT,1RECTANGLE",
    "1RIGHT POINTING BACKHAND INDEX,3INDEX,1RIGHT-POINTING DOUBLE TRIANGLE",
    "4WITH VERTICAL BAR,2ISOSCELES RIGHT TRIANGLE,2PENTAGON,2POINTER",
    "2SMALL TRIANGLE,2TRIANGLE,3WITH DOUBLE VERTICAL BAR,1RIGHTWARDS ARROW",
    "2ARROWHEAD,2BULLET,2EQUILATERAL ARROWHEAD,1ROSETTE,1SAFETY SCISSORS",
    "1SCISSORS,1SHOGI PIECE,1SKULL AND CROSSBONES,1SLIGHTLY SMALL CIRCLE",
    "3SQUARE,1SMALL DIAMOND,2LOZENGE,2SQUARE,2STAR,1SMILING FACE,1SNOWMAN",
    "1SPADE SUIT,1SQUARE,2BUTTON,2CENTRED,2FOR STOP,1STAR,1SUN WITH RAYS",
    "1TELEPHONE,1TINY DIAMOND,2LOZENGE,2SQUARE,1TOUCHTONE TELEPHONE,1TRUCK",
    "1TWO-WAY LEFT WAY TRAFFIC,1UNIVERSAL RECYCLING SYMBOL",
    "1UP POINTING BACKHAND INDEX,1UP-POINTING DOUBLE TRIANGLE",
    "2ISOSCELES RIGHT TRIANGLE,2SMALL TRIANGLE,2TRIANGLE,1UPPER LEFT TRIANGLE",
    "2RIGHT TRIANGLE,1UPWARDS EQUILATERAL ARROWHEAD,1VERTICAL ELLIPSE",
    "2RECTANGLE,1VERY SMALL DIAMOND,3LOZENGE,3SQUARE",
    "0BLACK-FEATHERED NORTH EAST ARROW,1RIGHTWARDS ARROW,1SOUTH EAST ARROW",
    "0BLACK-LETTER CAPITAL C,2H,2I,2R,2Z,0BLANK SYMBOL,0BLOCK SEXTANT-1",
    "1SEXTANT-12,1SEXTANT-123,1SEXTANT-1234,1SEXTANT-12345,1SEXTANT-12346",
    "1SEXTANT-1235,1SEXTANT-12356,1SEXTANT-1236,1SEXTANT-124,1SEXTANT-1245",
    "1SEXTANT-12456,1SEXTANT-1246,1SEXTANT-125,1SEXTANT-1256,1SEXTANT-126",
    "1SEXTANT-13,1SEXTANT-134,1SEXTANT-1345,1SEXTANT-13456,1SEXTANT-1346",
    "1SEXTANT-1356,1SEXTANT-136,1SEXTANT-14,1SEXTANT-145,1SEXTANT-1456",
    "1SEXTANT-146,1SEXTANT-15,1SEXTANT-156,1SEXTANT-16,1SEXTANT-2,1SEXTANT-23",
    "1SEXTANT-234,1SEXTANT-2345,1SEXTANT-23456,1SEXTANT-2346,1SEXTANT-235",
    "1SEXTANT-2356,1SEXTANT-236,1SEXTANT-24,1SEXTANT-245,1SEXTANT-2456",
    "1SEXTANT-25,1SEXTANT-256,1SEXTANT-26,1SEXTANT-3,1SEXTANT-34,1SEXTANT-345",
    "1SEXTANT-3456,1SEXTANT-346,1SEXTANT-35,1SEXTANT-356,1SEXTANT-36",
    "1SEXTANT-4,1SEXTANT-45,1SEXTANT-456,1SEXTANT-46,1SEXTANT-5,1SEXTANT-56",
    "1SEXTANT-6,0BLOSSOM,0BLOWFISH,0BLUE BOOK,1HEART,0BLUEBERRIES,0BOAR",
    "0BOLD EIGHT SPOKED ASTERISK,1FIVE SPOKED ASTERISK,1GREEK CROSS,1SALTIRE",
    "1SIX SPOKED ASTERISK,1WHITE CIRCLE,2SQUARE,0BOM,0BOMB,0BONE,0BOOK",
    "0BOOKMARK,1TABS,0BOOKS,0BOOMERANG,0BOPOMOFO FINAL LETTER G,3H,3K,3P,3T",
    "1LETTER A,2AH,2AI,2AINN,2AM,2AN,2ANG,2ANN,2AU,2AUNN,2B,2BU,2C,2CH,2D,2E",
    "2EE,2EH,2EI,2EN,2ENG,2ENN,2ER,2F,2G,2GH,2GN,2GU,2GW,2H,2I,2IH,2IM,2INN",
    "2INNN,2IR,2IU,2J,2JI,2K,2KW,2L,2LH,2M,2N,2NG,2NGG,2NN,2O,3WITH DOT ABOVE",
    "2OE,2OM,2ONG,2ONN,2OO,2OU,2P,2Q,2R,2S,2SH,2T,2U,2UNN,2V,2X,2Z,2ZH,2ZI,2ZY",
    "0BOTTLE WITH POPPING CORK,0BOTTOM ARC ANTICLOCKWISE ARROW,1CURLY BRACKET",
    "1HALF BLACK CIRCLE,2INTEGRAL,2LEFT PARENTHESIS,2RIGHT PARENTHESIS",
    "1LEFT CORNER,2CROP,2HALF BRACKET,1PARENTHESIS,1RIGHT CORNER,2CROP",
    "2HALF BRACKET,1SQUARE BRACKET,3OVER TOP SQUARE BRACKET",
    "1TORTOISE SHELL BRACKET,0BOUQUET,1OF FLOWERS,0BOW AND ARROW",
    "0BOWL OF HYGIEIA,1WITH SPOON,0BOWLING,0BOWTIE,1WITH LEFT HALF BLACK",
    "2RIGHT HALF BLACK,0BOX DRAWINGS DOUBLE DOWN AND HORIZONTAL,5LEFT,5RIGHT",
    "3HORIZONTAL,3UP AND HORIZONTAL,5LEFT,5RIGHT,3VERTICAL,4AND HORIZONTAL",
    "5LEFT,5RIGHT,2DOWN DOUBLE AND HORIZONTAL SINGLE,5LEFT SINGLE",
    "5RIGHT SINGLE,3HEAVY AND HORIZONTAL LIGHT,5LEFT LIGHT,6UP LIGHT",
    "5RIGHT LIGHT,6UP LIGHT,5UP HORIZONTAL LIGHT,3LIGHT AND HORIZONTAL HEAVY",
    "5LEFT HEAVY,6UP HEAVY,5RIGHT HEAVY,6UP HEAVY,5UP HORIZONTAL HEAVY",
    "3SINGLE AND HORIZONTAL DOUBLE,5LEFT DOUBLE,5RIGHT DOUBLE",
    "2HEAVY DOUBLE DASH HORIZONTAL,5VERTICAL,3DOWN,4AND HORIZONTAL,5LEFT",
    "5RIGHT,3HORIZONTAL,3LEFT,4AND LIGHT RIGHT,3QUADRUPLE DASH HORIZONTAL",
    "5VERTICAL,3RIGHT,3TRIPLE DASH HORIZONTAL,5VERTICAL,3UP,4AND HORIZONTAL",
    "5LEFT,5LIGHT DOWN,5RIGHT,3VERTICAL,4AND HORIZONTAL,5LEFT,5RIGHT",
    "2LEFT DOWN HEAVY AND RIGHT UP LIGHT,3HEAVY AND RIGHT DOWN LIGHT,6UP LIGHT",
    "6VERTICAL LIGHT,3LIGHT AND RIGHT DOWN HEAVY,6UP HEAVY,6VERTICAL HEAVY",
    "3UP HEAVY AND RIGHT DOWN LIGHT,2LIGHT ARC DOWN AND LEFT,6RIGHT",
    "4UP AND LEFT,6RIGHT,3DIAGONAL CROSS,4DIAMOND,4MIDDLE LEFT TO LOWER CENTRE",
    "9TO MIDDLE RIGHT,7UPPER CENTRE TO MIDDLE RIGHT",
    "9TO MIDDLE RIGHT TO LOWER CENTRE,5RIGHT TO LOWER CENTRE",
    "7UPPER CENTRE TO MIDDLE LEFT TO LOWER CENTRE,4UPPER CENTRE TO MIDDLE LEFT",
    "9AND MIDDLE RIGHT TO LOWER CENTRE,9TO LOWER CENTRE",
    "9TO LOWER CENTRE TO MIDDLE RIGHT,8RIGHT,9AND MIDDLE LEFT TO LOWER CENTRE",
    "9TO LOWER CENTRE,9TO LOWER CENTRE TO MIDDLE LEFT,5LEFT TO LOWER RIGHT",
    "5RIGHT TO LOWER LEFT,3DOUBLE DASH HORIZONTAL,5VERTICAL,3DOWN",
    "4AND HORIZONTAL,5LEFT,5RIGHT,3HORIZONTAL,4WITH VERTICAL STROKE,3LEFT",
    "4AND HEAVY RIGHT,3QUADRUPLE DASH HORIZONTAL,5VERTICAL,3RIGHT",
    "3TRIPLE DASH HORIZONTAL,5VERTICAL,3UP,4AND HEAVY DOWN,5HORIZONTAL,5LEFT",
    "5RIGHT,3VERTICAL,4AND HORIZONTAL,5LEFT,5RIGHT",
    "2RIGHT DOWN HEAVY AND LEFT UP LIGHT,3HEAVY AND LEFT DOWN LIGHT,6UP LIGHT",
    "6VERTICAL LIGHT,3LIGHT AND LEFT DOWN HEAVY,6UP HEAVY,6VERTICAL HEAVY",
    "3UP HEAVY AND LEFT DOWN LIGHT,2UP DOUBLE AND HORIZONTAL SINGLE",
    "5LEFT SINGLE,5RIGHT SINGLE,3HEAVY AND DOWN HORIZONTAL LIGHT",
    "5HORIZONTAL LIGHT,5LEFT DOWN LIGHT,6LIGHT,5RIGHT DOWN LIGHT,6LIGHT",
    "3LIGHT AND DOWN HORIZONTAL HEAVY,5HORIZONTAL HEAVY,5LEFT DOWN HEAVY",
    "6HEAVY,5RIGHT DOWN HEAVY,6HEAVY,3SINGLE AND HORIZONTAL DOUBLE",
    "5LEFT DOUBLE,5RIGHT DOUBLE,2VERTICAL DOUBLE AND HORIZONTAL SINGLE",
    "5LEFT SINGLE,5RIGHT SINGLE,3HEAVY AND HORIZONTAL LIGHT,5LEFT LIGHT",
    "5RIGHT LIGHT,3LIGHT AND HORIZONTAL HEAVY,5LEFT HEAVY,5RIGHT HEAVY",
    "3SINGLE AND HORIZONTAL DOUBLE,5LEFT DOUBLE,5RIGHT DOUBLE,0BOXING GLOVE",
    "0BOY,0BOYS SYMBOL,0BPH,0BRAHMI DANDA,1DIGIT EIGHT,2FIVE,2FOUR,2NINE,2ONE",
    "2SEVEN,2SIX,2THREE,2TWO,2ZERO,1DOUBLE DANDA,1LETTER A,2AA,2AI,2AU,2BA",
    "2BHA,2CA,2CHA,2DA,2DDA,2DDHA,2DHA,2E,2GA,2GHA,2HA,2I,2II,2JA,2JHA,2KA",
    "2KHA,2LA,2LLA,2MA,2NA,2NGA,2NNA,2NYA,2O,2OLD TAMIL LLA,4LLLA,4NNNA,4RRA",
    "4SHORT E,5O,2PA,2PHA,2RA,2SA,2SHA,2SSA,2TA,2THA,2TTA,2TTHA,2U,2UU,2VA",
    "2VOCALIC L,3LL,3R,3RR,2YA,1NUMBER EIGHT,2EIGHTY,2FIFTY,2FIVE,2FORTY,2FOUR",
    "2JOINER,2NINE,2NINETY,2ONE,3HUNDRED,3THOUSAND,2SEVEN,2SEVENTY,2SIX,2SIXTY",
    "2TEN,2THIRTY,2THREE,2TWENTY,2TWO,1PUNCTUATION CRESCENT BAR,2DOT",
    "2DOUBLE DOT,2LINE,2LOTUS,1SIGN ANUSVARA,2CANDRABINDU,2JIHVAMULIYA",
    "2OLD TAMIL VIRAMA,2UPADHMANIYA,2VISARGA,1VIRAMA,1VOWEL SIGN AA,3AI,3AU",
    "3BHATTIPROLU AA,3E,3I,3II,3O,3OLD TAMIL SHORT E,6O,3U,3UU,3VOCALIC L,4LL",
    "4R,4RR,0BRAILLE PATTERN BLANK,2DOTS-1,2DOTS-12,2DOTS-123,2DOTS-1234",
    "2DOTS-12345,2DOTS-123456,2DOTS-1234567,2DOTS-12345678,2DOTS-1234568",
    "2DOTS-123457,2DOTS-1234578,2DOTS-123458,2DOTS-12346,2DOTS-123467",
    "2DOTS-1234678,2DOTS-123468,2DOTS-12347,2DOTS-123478,2DOTS-12348",
    "2DOTS-1235,2DOTS-12356,2DOTS-123567,2DOTS-1235678,2DOTS-123568",
    "2DOTS-12357,2DOTS-123578,2DOTS-12358,2DOTS-1236,2DOTS-12367,2DOTS-123678",
    "2DOTS-12368,2DOTS-1237,2DOTS-12378,2DOTS-1238,2DOTS-124,2DOTS-1245",
    "2DOTS-12456,2DOTS-124567,2DOTS-1245678,2DOTS-124568,2DOTS-12457",
    "2DOTS-124578,2DOTS-12458,2DOTS-1246,2DOTS-12467,2DOTS-124678,2DOTS-12468",
    "2DOTS-1247,2DOTS-12478,2DOTS-1248,2DOTS-125,2DOTS-1256,2DOTS-12567",
    "2DOTS-125678,2DOTS-12568,2DOTS-1257,2DOTS-12578,2DOTS-1258,2DOTS-126",
    "2DOTS-1267,2DOTS-12678,2DOTS-1268,2DOTS-127,2DOTS-1278,2DOTS-128,2DOTS-13",
    "2DOTS-134,2DOTS-1345,2DOTS-13456,2DOTS-134567,2DOTS-1345678,2DOTS-134568",
    "2DOTS-13457,2DOTS-134578,2DOTS-13458,2DOTS-1346,2DOTS-13467,2DOTS-134678",
    "2DOTS-13468,2DOTS-1347,2DOTS-13478,2DOTS-1348,2DOTS-135,2DOTS-1356",
    "2DOTS-13567,2DOTS-135678,2DOTS-13568,2DOTS-1357,2DOTS-13578,2DOTS-1358",
    "2DOTS-136,2DOTS-1367,2DOTS-13678,2DOTS-1368,2DOTS-137,2DOTS-1378",
    "2DOTS-138,2DOTS-14,2DOTS-145,2DOTS-1456,2DOTS-14567,2DOTS-145678",
    "2DOTS-14568,2DOTS-1457,2DOTS-14578,2DOTS-1458,2DOTS-146,2DOTS-1467",
    "2DOTS-14678,2DOTS-1468,2DOTS-147,2DOTS-1478,2DOTS-148,2DOTS-15,2DOTS-156",
    "2DOTS-1567,2DOTS-15678,2DOTS-1568,2DOTS-157,2DOTS-1578,2DOTS-158,2DOTS-16",
    "2DOTS-167,2DOTS-1678,2DOTS-168,2DOTS-17,2DOTS-178,2DOTS-18,2DOTS-2",
    "2DOTS-23,2DOTS-234,2DOTS-2345,2DOTS-23456,2DOTS-234567,2DOTS-2345678",
    "2DOTS-234568,2DOTS-23457,2DOTS-234578,2DOTS-23458,2DOTS-2346,2DOTS-23467",
    "2DOTS-234678,2DOTS-23468,2DOTS-2347,2DOTS-23478,2DOTS-2348,2DOTS-235",
    "2DOTS-2356,2DOTS-23567,2DOTS-235678,2DOTS-23568,2DOTS-2357,2DOTS-23578",
    "2DOTS-2358,2DOTS-236,2DOTS-2367,2DOTS-23678,2DOTS-2368,2DOTS-237",
    "2DOTS-2378,2DOTS-238,2DOTS-24,2DOTS-245,2DOTS-2456,2DOTS-24567",
    "2DOTS-245678,2DOTS-24568,2DOTS-2457,2DOTS-24578,2DOTS-2458,2DOTS-246",
    "2DOTS-2467,2DOTS-24678,2DOTS-2468,2DOTS-247,2DOTS-2478,2DOTS-248,2DOTS-25",
    "2DOTS-256,2DOTS-2567,2DOTS-25678,2DOTS-2568,2DOTS-257,2DOTS-2578",
    "2DOTS-258,2DOTS-26,2DOTS-267,2DOTS-2678,2DOTS-268,2DOTS-27,2DOTS-278",
    "2DOTS-28,2DOTS-3,2DOTS-34,2DOTS-345,2DOTS-3456,2DOTS-34567,2DOTS-345678",
    "2DOTS-34568,2DOTS-3457,2DOTS-34578,2DOTS-3458,2DOTS-346,2DOTS-3467",
    "2DOTS-34678,2DOTS-3468,2DOTS-347,2DOTS-3478,2DOTS-348,2DOTS-35,2DOTS-356",
    "2DOTS-3567,2DOTS-35678,2DOTS-3568,2DOTS-357,2DOTS-3578,2DOTS-358,2DOTS-36",
    "2DOTS-367,2DOTS-3678,2DOTS-368,2DOTS-37,2DOTS-378,2DOTS-38,2DOTS-4",
    "2DOTS-45,2DOTS-456,2DOTS-4567,2DOTS-45678,2DOTS-4568,2DOTS-457,2DOTS-4578",
    "2DOTS-458,2DOTS-46,2DOTS-467,2DOTS-4678,2DOTS-468,2DOTS-47,2DOTS-478",
    "2DOTS-48,2DOTS-5,2DOTS-56,2DOTS-567,2DOTS-5678,2DOTS-568,2DOTS-57",
    "2DOTS-578,2DOTS-58,2DOTS-6,2DOTS-67,2DOTS-678,2DOTS-68,2DOTS-7,2DOTS-78",
    "2DOTS-8,0BRAIN,0BREAD,0BREAK PERMITTED HERE,0BREAST-FEEDING,0BREVE,0BRICK",
    "0BRIDE WITH VEIL,0BRIDGE AT NIGHT,0BRIEFCASE,0BRIEFS,0BROCCOLI",
    "0BROKEN BAR,1CIRCLE WITH NORTHWEST ARROW,1HEART,0BROOM,0BROWN HEART,0BS",
    "0BUBBLE TEA,0BUBBLES,0BUCKET,0BUG,0BUGINESE END OF SECTION,1LETTER A,2BA",
    "2CA,2DA,2GA,2HA,2JA,2KA,2LA,2MA,2MPA,2NA,2NGA,2NGKA,2NRA,2NYA,2NYCA,2PA",
    "2RA,2SA,2TA,2VA,2YA,1PALLAWA,1VOWEL SIGN AE,3E,3I,3O,3U,0BUHID LETTER A",
    "2BA,2DA,2GA,2HA,2I,2KA,2LA,2MA,2NA,2NGA,2PA,2RA,2SA,2TA,2U,2WA,2YA",
    "1VOWEL SIGN I,3U,0BUILDING CONSTRUCTION,0BULLET,1OPERATOR,0BULLHORN",
    "1WITH SOUND WAVES,0BULLSEYE,0BURRITO,0BUS,1STOP,0BUST IN SILHOUETTE",
    "0BUSTS IN SILHOUETTE,0BUTTER,0BUTTERFLY,0BYTE ORDER MARK",
    "0BYZANTINE MUSICAL SYMBOL AGOGI ARGI,4ARGOTERI,4GORGI,4GORGOTERI,4MESI",
    "4METRIA,4POLI ARGI,5GORGI,3ANATRICHISMA,3ANTIKENOKYLISMA,3ANTIKENOMA",
    "3APESO EKFONITIKON,4EXO NEO,3APLI,3APODERMA ARCHAION,4NEO",
    "3APOSTROFOI SYNDESMOS NEO,4TELOUS ICHIMATOS,3APOSTROFOS,4DIPLI,4NEO",
    "3APOTHEMA,3ARGON,3ARGOSYNTHETON,3ARKTIKO DI,4GA,4KE,4NI,4PA,4VOU,4ZO",
    "3CHAMILI,3CHAMILON,3CHOREVMA ARCHAION,4NEO,3CHROA KLITON,4SPATHI,4ZYGOS",
    "3DASEIA,3DIARGON,3DIASTOLI APLI MEGALI,5MIKRI,4DIPLI,4THESEOS",
    "3DIESIS APLI DYO DODEKATA,4DIGRAMMOS EX DODEKATA",
    "4MONOGRAMMOS TESSERA DODEKATA,4TETARTIMORION,4TRIGRAMMOS OKTO DODEKATA",
    "4TRITIMORION,3DIFTOGGOS OU,3DIGORGON,4PARESTIGMENON ARISTERA ANO,6KATO",
    "5DEXIA,3DIGRAMMA GG,3DIPLI,4ARCHAION,3DYO,3EKSTREPTON,3ELAFRON",
    "3ENARXIS KAI FTHORA VOU,3ENDOFONON,3EPEGERMA,3ETERON ARGOSYNTHETON",
    "4PARAKALESMA,3EXO EKFONITIKON,3FANEROSIS DIFONIAS,4MONOFONIAS",
    "4TETRAFONIAS,3FHTORA SKLIRON CHROMA VASIS,3FTHORA ARCHAION",
    "5DEYTEROU ICHOU,4DIATONIKI DI,5KE,5NANA,5NI ANO,6KATO,5PA,5ZO",
    "4ENARMONIOS ANTIFONIA,4I YFESIS TETARTIMORION,4MALAKON CHROMA DIFONIAS",
    "6MONOFONIAS,4NAOS ICHOS,4NENANO,4SKLIRON CHROMA SYNAFI,6VASIS",
    "5DIATONON DI,3GENIKI DIESIS,4YFESIS,3GORGON ARCHAION,4NEO ANO,5KATO",
    "4PARESTIGMENON ARISTERA,5DEXIA,3GORGOSYNTHETON,3GORTHMIKON N APLOUN",
    "5DIPLOUN,3GRONTHISMATA,3ICHADIN,3IMIDIARGON,3IMIFONON,3IMIFTHORA",
    "3IMIFTHORON,3ISAKIA TELOUS ICHIMATOS,3ISON ARCHAION,4NEO,3KATAVA TROMIKON",
    "3KATAVASMA,3KATHISTI,3KENTIMA ARCHAION,4NEO ANO,5KATO,5MESO,3KENTIMATA",
    "4ARCHAION,4NEO ANO,5KATO,5MESO,3KLASMA,4ANO,4KATO,3KONTEVMA,4ALLO",
    "3KORONIS,3KOUFISMA,3KRATIMA ALLO,4ARCHAION,4NEO,3KRATIMATA",
    "3KRATIMOKOUFISMA,3KRATIMOYPORROON,3KREMASTI,3KYLISMA,3LEIMMA DYO CHRONON",
    "4ENOS CHRONOU,4IMISEOS CHRONOU,4TESSARON CHRONON,4TRION CHRONON,3LEMOI",
    "3LYGISMA,3MARTYRIA ALLI DEYTEROS ICHOS,5PROTOS ICHOS,4DEYTEROS ICHOS",
    "4LEGETOS ICHOS,4PLAGIOS ICHOS,5TETARTOS ICHOS,4PROTOS ICHOS",
    "4PROTOVARYS ICHOS,4TETARTOS ICHOS,5LEGETOS ICHOS,4TRIFONIAS,4TRITOS ICHOS",
    "4VARYS ICHOS,3MIKRON ISON,3NANA,3OLIGON ARCHAION,4NEO,3OMALON",
    "3OXEIA DIPLI,4EKFONITIKON,4NEO,3OXEIAI ARCHAION,3OYRANISMA ARCHAION,4NEO",
    "3PARAKALESMA ARCHAION,4NEO,3PARAKLITIKI,4ARCHAION,4NEO,3PARICHON",
    "3PELASTON,4NEO,3PERISPOMENI,3PETASMA,3PETASTI,3PETASTOKOUFISMA",
    "3PIASMA ARCHAION,4NEO,3PSIFISTOLYGISMA,3PSIFISTON,4NEO",
    "3PSIFISTOPARAKALESMA,3PSIFISTOSYNAGMA,3PSILI,3PSILON,3RAPISMA,3REVMA",
    "3SAXIMATA,3SEISMA,4NEO,3SIMANSIS ARSEOS,5DISIMOU,5TETRASIMOU,5TRISIMOU",
    "4THESEOS,5DISIMOU,5TETRASIMOU,5TRISIMOU,3STAVROS,4APODEXIA,3STIGMA",
    "3STRAGGISMATA,3SYNAGMA ARCHAION,4META STAVROU,4NEO,3SYNEVMA,3SYRMA",
    "3SYRMATIKI,3TELEIA,3TESSERA,3TETRAPLI,3THEMA,4APLOUN,3THEMATISMOS ESO",
    "4EXO,3THES KAI APOTHES,3THITA,3TINAGMA,3TRIA,3TRIGORGON,3TRIPLI",
    "3TROMIKOLYGISMA,3TROMIKON ALLO,4ARCHAION,4NEO,3TROMIKOPARAKALESMA",
    "3TROMIKOPSIFISTON,3TROMIKOSYNAGMA,3VAREIA DIPLI,4EKFONITIKON,4NEO",
    "3VAREIAI ARCHAION,3VATHY,3XIRON KLASMA,3YFEN ANO,4KATO",
    "3YFESIS APLI DYO DODEKATA,4DIGRAMMOS EX DODEKATA",
    "4MONOGRAMMOS TESSERA DODEKATA,4TRIGRAMMOS OKTO DODEKATA,4TRITIMORION",
    "3YPOKRISIS,4DIPLI,3YPORROI,3YPSILI"]

end CallChains.Text.CharacterName
