/-!
The names of characters that start with the letters from E to K.
-/

namespace CallChains.Text.CharacterName

def linesEToK : List String :=
  [
    "0E-MAIL SYMBOL,0EAGLE,0EAR,1OF MAIZE,2RICE,1WITH HEARING AID,0EARTH",
    "1GLOBE AMERICAS,2ASIA-AUSTRALIA,2EUROPE-AFRICA,1GROUND,0EAST SYRIAC CROSS",
    "0EDITORIAL CORONIS,0EGG,0EGYPTIAN HIEROGLYPH A001,2A002,2A003,2A004,2A005",
    "2A005A,2A006,2A006A,2A006B,2A007,2A008,2A009,2A010,2A011,2A012,2A013",
    "2A014,2A014A,2A015,2A016,2A017,2A017A,2A018,2A019,2A020,2A021,2A022,2A023",
    "2A024,2A025,2A026,2A027,2A028,2A029,2A030,2A031,2A032,2A032A,2A033,2A034",
    "2A035,2A036,2A037,2A038,2A039,2A040,2A040A,2A041,2A042,2A042A,2A043",
    "2A043A,2A044,2A045,2A045A,2A046,2A047,2A048,2A049,2A050,2A051,2A052,2A053",
    "2A054,2A055,2A056,2A057,2A058,2A059,2A060,2A061,2A062,2A063,2A064,2A065",
    "2A066,2A067,2A068,2A069,2A070,2AA001,2AA002,2AA003,2AA004,2AA005,2AA006",
    "2AA007,2AA007A,2AA007B,2AA008,2AA009,2AA010,2AA011,2AA012,2AA013,2AA014",
    "2AA015,2AA016,2AA017,2AA018,2AA019,2AA020,2AA021,2AA022,2AA023,2AA024",
    "2AA025,2AA026,2AA027,2AA028,2AA029,2AA030,2AA031,2AA032,2B001,2B002,2B003",
    "2B004,2B005,2B005A,2B006,2B007,2B008,2B009,2BEGIN SEGMENT,2C001,2C002",
    "2C002A,2C002B,2C002C,2C003,2C004,2C005,2C006,2C007,2C008,2C009,2C010",
    "2C010A,2C011,2C012,2C013,2C014,2C015,2C016,2C017,2C018,2C019,2C020,2C021",
    "2C022,2C023,2C024,2D001,2D002,2D003,2D004,2D005,2D006,2D007,2D008,2D008A",
    "2D009,2D010,2D011,2D012,2D013,2D014,2D015,2D016,2D017,2D018,2D019,2D020",
    "2D021,2D022,2D023,2D024,2D025,2D026,2D027,2D027A,2D028,2D029,2D030,2D031",
    "2D031A,2D032,2D033,2D034,2D034A,2D035,2D036,2D037,2D038,2D039,2D040,2D041",
    "2D042,2D043,2D044,2D045,2D046,2D046A,2D047,2D048,2D048A,2D049,2D050",
    "2D050A,2D050B,2D050C,2D050D,2D050E,2D050F,2D050G,2D050H,2D050I,2D051",
    "2D052,2D052A,2D053,2D054,2D054A,2D055,2D056,2D057,2D058,2D059,2D060,2D061",
    "2D062,2D063,2D064,2D065,2D066,2D067,2D067A,2D067B,2D067C,2D067D,2D067E",
    "2D067F,2D067G,2D067H,2E001,2E002,2E003,2E004,2E005,2E006,2E007,2E008",
    "2E008A,2E009,2E009A,2E010,2E011,2E012,2E013,2E014,2E015,2E016,2E016A",
    "2E017,2E017A,2E018,2E019,2E020,2E020A,2E021,2E022,2E023,2E024,2E025,2E026",
    "2E027,2E028,2E028A,2E029,2E030,2E031,2E032,2E033,2E034,2E034A,2E036,2E037",
    "2E038,2END SEGMENT,2F001,2F001A,2F002,2F003,2F004,2F005,2F006,2F007,2F008",
    "2F009,2F010,2F011,2F012,2F013,2F013A,2F014,2F015,2F016,2F017,2F018,2F019",
    "2F020,2F021,2F021A,2F022,2F023,2F024,2F025,2F026,2F027,2F028,2F029,2F030",
    "2F031,2F031A,2F032,2F033,2F034,2F035,2F036,2F037,2F037A,2F038,2F038A",
    "2F039,2F040,2F041,2F042,2F043,2F044,2F045,2F045A,2F046,2F046A,2F047",
    "2F047A,2F048,2F049,2F050,2F051,2F051A,2F051B,2F051C,2F052,2F053,2G001",
    "2G002,2G003,2G004,2G005,2G006,2G006A,2G007,2G007A,2G007B,2G008,2G009",
    "2G010,2G011,2G011A,2G012,2G013,2G014,2G015,2G016,2G017,2G018,2G019,2G020",
    "2G020A,2G021,2G022,2G023,2G024,2G025,2G026,2G026A,2G027,2G028,2G029,2G030",
    "2G031,2G032,2G033,2G034,2G035,2G036,2G036A,2G037,2G037A,2G038,2G039,2G040",
    "2G041,2G042,2G043,2G043A,2G044,2G045,2G045A,2G046,2G047,2G048,2G049,2G050",
    "2G051,2G052,2G053,2G054,2H001,2H002,2H003,2H004,2H005,2H006,2H006A,2H007",
    "2H008,2HORIZONTAL JOINER,2I001,2I002,2I003,2I004,2I005,2I005A,2I006,2I007",
    "2I008,2I009,2I009A,2I010,2I010A,2I011,2I011A,2I012,2I013,2I014,2I015",
    "2INSERT AT BOTTOM END,5START,4TOP END,5START,2K001,2K002,2K003,2K004",
    "2K005,2K006,2K007,2K008,2L001,2L002,2L002A,2L003,2L004,2L005,2L006,2L006A",
    "2L007,2L008,2M001,2M001A,2M001B,2M002,2M003,2M003A,2M004,2M005,2M006",
    "2M007,2M008,2M009,2M010,2M010A,2M011,2M012,2M012A,2M012B,2M012C,2M012D",
    "2M012E,2M012F,2M012G,2M012H,2M013,2M014,2M015,2M015A,2M016,2M016A,2M017",
    "2M017A,2M018,2M019,2M020,2M021,2M022,2M022A,2M023,2M024,2M024A,2M025",
    "2M026,2M027,2M028,2M028A,2M029,2M030,2M031,2M031A,2M032,2M033,2M033A",
    "2M033B,2M034,2M035,2M036,2M037,2M038,2M039,2M040,2M040A,2M041,2M042,2M043",
    "2M044,2N001,2N002,2N003,2N004,2N005,2N006,2N007,2N008,2N009,2N010,2N011",
    "2N012,2N013,2N014,2N015,2N016,2N017,2N018,2N018A,2N018B,2N019,2N020,2N021",
    "2N022,2N023,2N024,2N025,2N025A,2N026,2N027,2N028,2N029,2N030,2N031,2N032",
    "2N033,2N033A,2N034,2N034A,2N035,2N035A,2N036,2N037,2N037A,2N038,2N039",
    "2N040,2N041,2N042,2NL001,2NL002,2NL003,2NL004,2NL005,2NL005A,2NL006",
    "2NL007,2NL008,2NL009,2NL010,2NL011,2NL012,2NL013,2NL014,2NL015,2NL016",
    "2NL017,2NL017A,2NL018,2NL019,2NL020,2NU001,2NU002,2NU003,2NU004,2NU005",
    "2NU006,2NU007,2NU008,2NU009,2NU010,2NU010A,2NU011,2NU011A,2NU012,2NU013",
    "2NU014,2NU015,2NU016,2NU017,2NU018,2NU018A,2NU019,2NU020,2NU021,2NU022",
    "2NU022A,2O001,2O001A,2O002,2O003,2O004,2O005,2O005A,2O006,2O006A,2O006B",
    "2O006C,2O006D,2O006E,2O006F,2O007,2O008,2O009,2O010,2O010A,2O010B,2O010C",
    "2O011,2O012,2O013,2O014,2O015,2O016,2O017,2O018,2O019,2O019A,2O020,2O020A",
    "2O021,2O022,2O023,2O024,2O024A,2O025,2O025A,2O026,2O027,2O028,2O029",
    "2O029A,2O030,2O030A,2O031,2O032,2O033,2O033A,2O034,2O035,2O036,2O036A",
    "2O036B,2O036C,2O036D,2O037,2O038,2O039,2O040,2O041,2O042,2O043,2O044",
    "2O045,2O046,2O047,2O048,2O049,2O050,2O050A,2O050B,2O051,2OVERLAY MIDDLE",
    "2P001,2P001A,2P002,2P003,2P003A,2P004,2P005,2P006,2P007,2P008,2P009,2P010",
    "2P011,2Q001,2Q002,2Q003,2Q004,2Q005,2Q006,2Q007,2R001,2R002,2R002A,2R003",
    "2R003A,2R003B,2R004,2R005,2R006,2R007,2R008,2R009,2R010,2R010A,2R011",
    "2R012,2R013,2R014,2R015,2R016,2R016A,2R017,2R018,2R019,2R020,2R021,2R022",
    "2R023,2R024,2R025,2R026,2R027,2R028,2R029,2S001,2S002,2S002A,2S003,2S004",
    "2S005,2S006,2S006A,2S007,2S008,2S009,2S010,2S011,2S012,2S013,2S014,2S014A",
    "2S014B,2S015,2S016,2S017,2S017A,2S018,2S019,2S020,2S021,2S022,2S023,2S024",
    "2S025,2S026,2S026A,2S026B,2S027,2S028,2S029,2S030,2S031,2S032,2S033,2S034",
    "2S035,2S035A,2S036,2S037,2S038,2S039,2S040,2S041,2S042,2S043,2S044,2S045",
    "2S046,2T001,2T002,2T003,2T003A,2T004,2T005,2T006,2T007,2T007A,2T008",
    "2T008A,2T009,2T009A,2T010,2T011,2T011A,2T012,2T013,2T014,2T015,2T016",
    "2T016A,2T017,2T018,2T019,2T020,2T021,2T022,2T023,2T024,2T025,2T026,2T027",
    "2T028,2T029,2T030,2T031,2T032,2T032A,2T033,2T033A,2T034,2T035,2T036,2U001",
    "2U002,2U003,2U004,2U005,2U006,2U006A,2U006B,2U007,2U008,2U009,2U010,2U011",
    "2U012,2U013,2U014,2U015,2U016,2U017,2U018,2U019,2U020,2U021,2U022,2U023",
    "2U023A,2U024,2U025,2U026,2U027,2U028,2U029,2U029A,2U030,2U031,2U032",
    "2U032A,2U033,2U034,2U035,2U036,2U037,2U038,2U039,2U040,2U041,2U042,2V001",
    "2V001A,2V001B,2V001C,2V001D,2V001E,2V001F,2V001G,2V001H,2V001I,2V002",
    "2V002A,2V003,2V004,2V005,2V006,2V007,2V007A,2V007B,2V008,2V009,2V010",
    "2V011,2V011A,2V011B,2V011C,2V012,2V012A,2V012B,2V013,2V014,2V015,2V016",
    "2V017,2V018,2V019,2V020,2V020A,2V020B,2V020C,2V020D,2V020E,2V020F,2V020G",
    "2V020H,2V020I,2V020J,2V020K,2V020L,2V021,2V022,2V023,2V023A,2V024,2V025",
    "2V026,2V027,2V028,2V028A,2V029,2V029A,2V030,2V030A,2V031,2V031A,2V032",
    "2V033,2V033A,2V034,2V035,2V036,2V037,2V037A,2V038,2V039,2V040,2V040A",
    "2VERTICAL JOINER,2W001,2W002,2W003,2W003A,2W004,2W005,2W006,2W007,2W008",
    "2W009,2W009A,2W010,2W010A,2W011,2W012,2W013,2W014,2W014A,2W015,2W016",
    "2W017,2W017A,2W018,2W018A,2W019,2W020,2W021,2W022,2W023,2W024,2W024A",
    "2W025,2X001,2X002,2X003,2X004,2X004A,2X004B,2X005,2X006,2X006A,2X007",
    "2X008,2X008A,2Y001,2Y001A,2Y002,2Y003,2Y004,2Y005,2Y006,2Y007,2Y008,2Z001",
    "2Z002,2Z002A,2Z002B,2Z002C,2Z002D,2Z003,2Z003A,2Z003B,2Z004,2Z004A,2Z005",
    "2Z005A,2Z006,2Z007,2Z008,2Z009,2Z010,2Z011,2Z012,2Z013,2Z014,2Z015,2Z015A",
    "2Z015B,2Z015C,2Z015D,2Z015E,2Z015F,2Z015G,2Z015H,2Z015I,2Z016,2Z016A",
    "2Z016B,2Z016C,2Z016D,2Z016E,2Z016F,2Z016G,2Z016H",
    "0EIGHT PETALLED OUTLINED BLACK FLORETTE,1POINTED BLACK STAR",
    "2PINWHEEL STAR,2RECTILINEAR BLACK STAR,1SPOKED ASTERISK",
    "1TEARDROP-SPOKED PROPELLER ASTERISK,0EIGHTH NOTE,0EJECT SYMBOL",
    "0ELBASAN LETTER A,2BE,2CE,2CHE,2DE,2DHE,2E,2EI,2FE,2GE,2GHAMMA,2GHE,2GJE",
    "2HE,2I,2JE,2KE,2KHE,2LE,2LLE,2ME,2NA,2NDE,2NE,2NJE,2O,2PE,2QE,2RE,2RRE",
    "2SE,2SHE,2TE,2THE,2U,2VE,2XE,2Y,2ZE,2ZHE,0ELECTRIC ARROW,1LIGHT BULB",
    "1PLUG,1TORCH,0ELECTRICAL INTERSECTION,0ELEMENT OF,2OPENING DOWNWARDS",
    "3UPWARDS,2WITH DOT ABOVE,3LONG HORIZONTAL STROKE,3OVERBAR",
    "3TWO HORIZONTAL STROKES,3UNDERBAR",
    "3VERTICAL BAR AT END OF HORIZONTAL STROKE,0ELEPHANT,0ELEVATOR,0ELF",
    "0ELYMAIC LETTER ALEPH,2AYIN,2BETH,2DALETH,2GIMEL,2HE,2HETH,2KAPH,2LAMEDH",
    "2MEM,2NUN,2PE,2QOPH,2RESH,2SADHE,2SAMEKH,2SHIN,2TAW,2TETH,2WAW,2YODH",
    "2ZAYIN,1LIGATURE ZAYIN-YODH,0EM DASH,1QUAD,1SPACE,0EMOJI COMPONENT BALD",
    "2CURLY HAIR,2RED HAIR,2WHITE HAIR,1MODIFIER FITZPATRICK TYPE-1-2,3TYPE-3",
    "3TYPE-4,3TYPE-5,3TYPE-6,0EMPHASIS SYMBOL,0EMPTY DOCUMENT,1NEST,1NOTE,2PAD",
    "2PAGE,1PAGE,1PAGES,1SET,2WITH LEFT ARROW ABOVE,3OVERBAR",
    "3RIGHT ARROW ABOVE,3SMALL CIRCLE ABOVE,0EN DASH,1QUAD,1SPACE",
    "0END OF GUARDED AREA,2LINE,2MEDIUM,2PROOF,2PROTECTED AREA,2SELECTED AREA",
    "2TEXT,2TRANSMISSION,3BLOCK,1WITH LEFTWARDS ARROW ABOVE,0ENQ,0ENQUIRY",
    "0ENTER SYMBOL,0ENVELOPE,1WITH DOWNWARDS ARROW ABOVE,2LIGHTNING,0EOL,0EOM",
    "0EOT,0EPA,0EQUAL AND PARALLEL TO,1TO BY DEFINITION,2OR GREATER-THAN",
    "3LESS-THAN,3PRECEDES,3SUCCEEDS,0EQUALS COLON,1SIGN,2ABOVE LEFTWARDS ARROW",
    "3PLUS SIGN,3RIGHTWARDS ARROW,3TILDE OPERATOR,2AND SLANTED PARALLEL",
    "5WITH TILDE ABOVE,2WITH BUMPY ABOVE,3DOT BELOW,3INFINITY BELOW",
    "3TWO DOTS ABOVE AND TWO DOTS BELOW,1WITH ASTERISK,0EQUIANGULAR TO",
    "0EQUIVALENT TO,1WITH FOUR DOTS ABOVE,0ERASE TO THE LEFT,3RIGHT",
    "0ERIS FORM ONE,2TWO,0ERROR-BARRED BLACK CIRCLE,2DIAMOND,2SQUARE",
    "1WHITE CIRCLE,2DIAMOND,2SQUARE,0ESA,0ESC,0ESCAPE,0ESTIMATED SYMBOL",
    "0ESTIMATES,0ETB,0ETHIOPIC COLON",
    "1COMBINING GEMINATION AND VOWEL LENGTH MARK,3MARK,2VOWEL LENGTH MARK",
    "1COMMA,1DIGIT EIGHT,2FIVE,2FOUR,2NINE,2ONE,2SEVEN,2SIX,2THREE,2TWO",
    "1FULL STOP,1NUMBER EIGHTY,2FIFTY,2FORTY,2HUNDRED,2NINETY,2SEVENTY,2SIXTY",
    "2TEN,3THOUSAND,2THIRTY,2TWENTY,1PARAGRAPH SEPARATOR,1PREFACE COLON",
    "1QUESTION MARK,1SECTION MARK,1SEMICOLON,1SYLLABLE BA,2BAA,2BBA,2BBAA,2BBE",
    "2BBEE,2BBI,2BBO,2BBU,2BE,2BEE,2BI,2BO,2BOA,2BU,2BWA,2BWE,2BWEE,2BWI,2CA",
    "2CAA,2CCA,2CCAA,2CCE,2CCEE,2CCHA,2CCHAA,2CCHE,2CCHEE,2CCHHA,2CCHHAA",
    "2CCHHE,2CCHHEE,2CCHHI,2CCHHO,2CCHHU,2CCHI,2CCHO,2CCHU,2CCI,2CCO,2CCU,2CE",
    "2CEE,2CHA,2CHAA,2CHE,2CHEE,2CHI,2CHO,2CHOA,2CHU,2CHWA,2CI,2CO,2COA,2CU",
    "2CWA,2DA,2DAA,2DDA,2DDAA,2DDE,2DDEE,2DDHAA,2DDHE,2DDHEE,2DDHI,2DDHO,2DDHU",
    "2DDI,2DDO,2DDOA,2DDU,2DDWA,2DE,2DEE,2DI,2DO,2DOA,2DU,2DWA,2DZAA,2DZE",
    "2DZEE,2DZI,2DZO,2DZU,2FA,2FAA,2FE,2FEE,2FI,2FO,2FU,2FWA,2FWE,2FWEE,2FWI",
    "2FYA,2GA,2GAA,2GE,2GEE,2GGA,2GGAA,2GGE,2GGEE,2GGI,2GGO,2GGU,2GGWA,2GGWAA",
    "2GGWE,2GGWEE,2GGWI,2GI,2GLOTTAL A,3AA,3E,3EE,3I,3O,3OA,3U,3WA,2GO,2GOA",
    "2GU,2GURAGE BWEE,3BWI,3FWEE,3FWI,3GWE,3GWEE,3GWI,3HHWA,3KWE,3KWEE,3KWI",
    "3MWEE,3MWI,3PWEE,3PWI,3QWE,3QWEE,3QWI,2GWA,2GWAA,2GWE,2GWEE,2GWI,2GYA",
    "2GYAA,2GYE,2GYEE,2GYI,2GYO,2GYU,2HA,2HAA,2HE,2HEE,2HHA,2HHAA,2HHE,2HHEE",
    "2HHI,2HHO,2HHU,2HHWA,2HHWE,2HHWEE,2HHWI,2HHYA,2HHYAA,2HHYE,2HHYEE,2HHYI",
    "2HHYO,2HHYU,2HI,2HO,2HOA,2HU,2JA,2JAA,2JE,2JEE,2JI,2JO,2JOA,2JU,2JWA,2KA",
    "2KAA,2KE,2KEE,2KI,2KO,2KOA,2KU,2KWA,2KWAA,2KWE,2KWEE,2KWI,2KXA,2KXAA,2KXE",
    "2KXEE,2KXI,2KXO,2KXU,2KXWA,2KXWAA,2KXWE,2KXWEE,2KXWI,2KYA,2KYAA,2KYE",
    "2KYEE,2KYI,2KYO,2KYU,2LA,2LAA,2LE,2LEE,2LI,2LO,2LOA,2LU,2LWA,2MA,2MAA,2ME",
    "2MEE,2MI,2MO,2MOA,2MU,2MWA,2MWE,2MWEE,2MWI,2MYA,2NA,2NAA,2NE,2NEE,2NI,2NO",
    "2NOA,2NU,2NWA,2NYA,2NYAA,2NYE,2NYEE,2NYI,2NYO,2NYOA,2NYU,2NYWA,2PA,2PAA",
    "2PE,2PEE,2PHA,2PHAA,2PHARYNGEAL A,3AA,3E,3EE,3I,3O,3U,2PHE,2PHEE,2PHI",
    "2PHO,2PHOA,2PHU,2PHWA,2PI,2PO,2POA,2PU,2PWA,2PWE,2PWEE,2PWI,2QA,2QAA,2QE",
    "2QEE,2QHA,2QHAA,2QHE,2QHEE,2QHI,2QHO,2QHU,2QHWA,2QHWAA,2QHWE,2QHWEE,2QHWI",
    "2QI,2QO,2QOA,2QU,2QWA,2QWAA,2QWE,2QWEE,2QWI,2QYA,2QYAA,2QYE,2QYEE,2QYI",
    "2QYO,2QYU,2RA,2RAA,2RE,2REE,2RI,2RO,2ROA,2RU,2RWA,2RYA,2SA,2SAA,2SE",
    "2SEBATBEIT BWA,3FWA,3MWA,3PWA,2SEE,2SHA,2SHAA,2SHE,2SHEE,2SHI,2SHO,2SHOA",
    "2SHU,2SHWA,2SI,2SO,2SOA,2SSA,2SSAA,2SSE,2SSEE,2SSI,2SSO,2SSU,2SU,2SWA",
    "2SZA,2SZAA,2SZE,2SZEE,2SZI,2SZO,2SZU,2SZWA,2TA,2TAA,2TE,2TEE,2THA,2THAA",
    "2THE,2THEE,2THI,2THO,2THOA,2THU,2THWA,2TI,2TO,2TOA,2TSA,2TSAA,2TSE,2TSEE",
    "2TSI,2TSO,2TSU,2TSWA,2TTHAA,2TTHE,2TTHEE,2TTHI,2TTHO,2TTHU,2TU,2TWA,2TZA",
    "2TZAA,2TZE,2TZEE,2TZI,2TZO,2TZOA,2TZU,2VA,2VAA,2VE,2VEE,2VI,2VO,2VU,2VWA",
    "2WA,2WAA,2WE,2WEE,2WI,2WO,2WOA,2WU,2XA,2XAA,2XE,2XEE,2XI,2XO,2XOA,2XU",
    "2XWA,2XWAA,2XWE,2XWEE,2XWI,2XYA,2XYAA,2XYE,2XYEE,2XYI,2XYO,2XYU,2YA,2YAA",
    "2YE,2YEE,2YI,2YO,2YOA,2YU,2ZA,2ZAA,2ZE,2ZEE,2ZHA,2ZHAA,2ZHE,2ZHEE,2ZHI",
    "2ZHO,2ZHU,2ZHWA,2ZI,2ZO,2ZOA,2ZU,2ZWA,2ZZA,2ZZAA,2ZZE,2ZZEE,2ZZI,2ZZO",
    "2ZZU,1TONAL MARK CHIRET,3DERET,3DERET-HIDET,3DIFAT,3HIDET,3KENAT,3KURT",
    "3RIKRIK,3SHORT RIKRIK,3YIZET,1WORDSPACE,0ETX,0EULER CONSTANT,0EURO SIGN",
    "0EURO-CURRENCY SIGN,0EUROPEAN CASTLE,1POST OFFICE,0EVERGREEN TREE,0EXCESS",
    "0EXCLAMATION MARK,1QUESTION MARK,0EXPRESSIONLESS FACE",
    "0EXTENDED ARABIC-INDIC DIGIT EIGHT,3FIVE,3FOUR,3NINE,3ONE,3SEVEN,3SIX",
    "3THREE,3TWO,3ZERO,0EXTRATERRESTRIAL ALIEN",
    "0EXTREMELY HEAVY FIVE SPOKED ASTERISK,2GREEK CROSS,2SALTIRE",
    "2SIX SPOKED ASTERISK,2WHITE CIRCLE,3SQUARE,0EYE,0EYEGLASSES,0EYES",
    "0FACE HOLDING BACK TEARS,1MASSAGE,1PALM,1SAVOURING DELICIOUS FOOD",
    "1SCREAMING IN FEAR,1THROWING A KISS,1WITH COLD SWEAT,2COWBOY HAT",
    "2DIAGONAL MOUTH,2FINGER COVERING CLOSED LIPS,2HEAD-BANDAGE",
    "2LOOK OF TRIUMPH,2MEDICAL MASK,2MONOCLE,2NO GOOD GESTURE,2OK GESTURE",
    "2ONE EYEBROW RAISED,2OPEN EYES AND HAND OVER MOUTH,3MOUTH,4AND COLD SWEAT",
    "4VOMITING,2PARTY HORN AND PARTY HAT,2PEEKING EYE,2PLEADING EYES",
    "2ROLLING EYES,2STUCK-OUT TONGUE,4AND TIGHTLY-CLOSED EYES,5WINKING EYE",
    "2TEARS OF JOY,2THERMOMETER,2UNEVEN EYES AND WAVY MOUTH,1WITHOUT MOUTH",
    "0FACSIMILE SIGN,0FACTORY,0FAIRY,0FALAFEL,0FALLEN LEAF",
    "0FALLING DIAGONAL CROSSING NORTH EAST ARROW,3RISING DIAGONAL",
    "2IN WHITE CIRCLE IN BLACK SQUARE,0FAMILY,0FARSI SYMBOL,0FATHER CHRISTMAS",
    "0FAX ICON,1MACHINE,0FEARFUL FACE,0FEATHER,0FEMALE SIGN",
    "0FEMININE ORDINAL INDICATOR,0FENCER,0FERRIS WHEEL,0FERRY,0FF",
    "0FIELD HOCKEY STICK AND BALL,0FIGURE DASH,1SPACE,0FILE CABINET,1FOLDER",
    "1SEPARATOR,0FILM FRAMES,1PROJECTOR,0FINITE PART INTEGRAL,0FIRE,1ENGINE",
    "1EXTINGUISHER,0FIRECRACKER,0FIREWORK SPARKLER,0FIREWORKS",
    "0FIRST PLACE MEDAL,1QUARTER MOON,3SYMBOL,3WITH FACE,1STRONG ISOLATE,0FISH",
    "1CAKE WITH SWIRL DESIGN,0FISHEYE,0FISHING POLE AND FISH,0FISTED HAND SIGN",
    "0FIVE DOT MARK,2PUNCTUATION,0FLAG IN HOLE,0FLAMINGO,0FLAT SHOE,0FLATBREAD",
    "0FLATNESS,0FLEUR-DE-LIS,0FLEXED BICEPS,0FLOPPY DISK,0FLORAL HEART,0FLOWER",
    "1PLAYING CARDS,1PUNCTUATION MARK,0FLUSHED FACE,0FLY,0FLYING DISC",
    "1ENVELOPE,1SAUCER,0FOG,0FOGGY,0FOLDER,0FONDUE,0FOOT,0FOOTPRINTS,0FOR ALL",
    "0FORCES,0FORK AND KNIFE,3WITH PLATE,0FORKED PARAGRAPHOS,0FORKING",
    "0FORM FEED,0FORTUNE COOKIE,0FOUNTAIN,0FOUR BALLOON-SPOKED ASTERISK",
    "1CLUB-SPOKED ASTERISK,1CORNER ARROWS CIRCLING ANTICLOCKWISE,1DOT MARK",
    "2PUNCTUATION,1LEAF CLOVER,1POINTED BLACK STAR,1TEARDROP-SPOKED ASTERISK",
    "0FOUR-PER-EM SPACE,0FOURTH ROOT,0FOX FACE,0FRACTION NUMERATOR ONE,1SLASH",
    "0FRAME WITH AN X,2PICTURE,2TILES,0FREEZING FACE,0FRENCH FRANC SIGN,1FRIES",
    "0FRIED SHRIMP,0FROG FACE,0FRONT-FACING BABY CHICK",
    "0FRONT-TILTED SHADOWED WHITE RIGHTWARDS ARROW,0FROWN",
    "0FROWNING FACE WITH OPEN MOUTH,0FS,0FSI,0FUEL PUMP,0FULL BLOCK",
    "1MOON SYMBOL,2WITH FACE,1OUTER JOIN,1STOP,0FULLWIDTH AMPERSAND",
    "1APOSTROPHE,1ASTERISK,1BROKEN BAR,1CENT SIGN,1CIRCUMFLEX ACCENT,1COLON",
    "1COMMA,1COMMERCIAL AT,1DIGIT EIGHT,2FIVE,2FOUR,2NINE,2ONE,2SEVEN,2SIX",
    "2THREE,2TWO,2ZERO,1DOLLAR SIGN,1EQUALS SIGN,1EXCLAMATION MARK,1FULL STOP",
    "1GRAVE ACCENT,1GREATER-THAN SIGN,1HYPHEN-MINUS,1LATIN CAPITAL LETTER A,4B",
    "4C,4D,4E,4F,4G,4H,4I,4J,4K,4L,4M,4N,4O,4P,4Q,4R,4S,4T,4U,4V,4W,4X,4Y,4Z",
    "2SMALL LETTER A,4B,4C,4D,4E,4F,4G,4H,4I,4J,4K,4L,4M,4N,4O,4P,4Q,4R,4S,4T",
    "4U,4V,4W,4X,4Y,4Z,1LEFT CURLY BRACKET,2PARENTHESIS,2SQUARE BRACKET",
    "2WHITE PARENTHESIS,1LESS-THAN SIGN,1LOW LINE,1MACRON,1NOT SIGN",
    "1NUMBER SIGN,1PERCENT SIGN,1PLUS SIGN,1POUND SIGN,1QUESTION MARK",
    "1QUOTATION MARK,1REVERSE SOLIDUS,1RIGHT CURLY BRACKET,2PARENTHESIS",
    "2SQUARE BRACKET,2WHITE PARENTHESIS,1SEMICOLON,1SOLIDUS,1TILDE",
    "1VERTICAL LINE,1WON SIGN,1YEN SIGN,0FUNCTION APPLICATION,0FUNERAL URN",
    "0FUSE,0FVS1,0FVS2,0FVS3,0FVS4,0GAME DIE,0GARLIC,0GEAR,1WITH HANDLES",
    "1WITHOUT HUB,0GEM STONE,0GEMINI,0GENIE,0GEOMETRIC PROPORTION",
    "0GEOMETRICALLY EQUAL TO,1EQUIVALENT TO,0GEORGIAN CAPITAL LETTER AEN,3AN",
    "3BAN,3CAN,3CHAR,3CHIN,3CIL,3DON,3EN,3GAN,3GHAN,3HAE,3HAR,3HE,3HIE,3HOE",
    "3IN,3JHAN,3JIL,3KAN,3KHAR,3LAS,3MAN,3NAR,3ON,3PAR,3PHAR,3QAR,3RAE,3SAN",
    "3SHIN,3TAN,3TAR,3UN,3VIN,3WE,3XAN,3YN,3ZEN,3ZHAR,1LETTER AEN,2AIN,2AN",
    "2BAN,2CAN,2CHAR,2CHIN,2CIL,2DON,2ELIFI,2EN,2FI,2GAN,2GHAN,2HAE,2HAR",
    "2HARD SIGN,2HE,2HIE,2HOE,2IN,2JHAN,2JIL,2KAN,2KHAR,2LABIAL SIGN,2LAS,2MAN",
    "2NAR,2ON,2PAR,2PHAR,2QAR,2RAE,2SAN,2SHIN,2TAN,2TAR,2TURNED GAN,2UN,2VIN",
    "2WE,2XAN,2YN,2ZEN,2ZHAR,1MTAVRULI CAPITAL LETTER AEN,4AIN,4AN,4BAN,4CAN",
    "4CHAR,4CHIN,4CIL,4DON,4ELIFI,4EN,4FI,4GAN,4GHAN,4HAE,4HAR,4HARD SIGN,4HE",
    "4HIE,4HOE,4IN,4JHAN,4JIL,4KAN,4KHAR,4LABIAL SIGN,4LAS,4MAN,4NAR,4ON,4PAR",
    "4PHAR,4QAR,4RAE,4SAN,4SHIN,4TAN,4TAR,4TURNED GAN,4UN,4VIN,4WE,4XAN,4YN",
    "4ZEN,4ZHAR,1PARAGRAPH SEPARATOR,1SMALL LETTER AEN,3AN,3BAN,3CAN,3CHAR",
    "3CHIN,3CIL,3DON,3EN,3GAN,3GHAN,3HAE,3HAR,3HE,3HIE,3HOE,3IN,3JHAN,3JIL",
    "3KAN,3KHAR,3LAS,3MAN,3NAR,3ON,3PAR,3PHAR,3QAR,3RAE,3SAN,3SHIN,3TAN,3TAR",
    "3UN,3VIN,3WE,3XAN,3YN,3ZEN,3ZHAR,0GERMAN PENNY SIGN,0GETA MARK,0GHOST",
    "0GIMEL SYMBOL,0GIRAFFE FACE,0GIRL,0GIRLS SYMBOL",
    "0GLAGOLITIC CAPITAL LETTER AZU,3BIG YUS,3BUKY,3CAUDATE CHRIVI,3CHRIVI",
    "3DJERVI,3DOBRO,3DZELO,3FITA,3FRITU,3GLAGOLI,3HERU,3I,3INITIAL IZHE",
    "3IOTATED BIG YUS,4SMALL YUS,3IZHE,3IZHITSA,3KAKO,3LATINATE MYSLITE",
    "3LJUDIJE,3MYSLITE,3NASHI,3ONU,3OTU,3PE,3POKOJI,3RITSI,3SHA,3SHTA,3SHTAPIC",
    "3SLOVO,3SMALL YUS,5WITH TAIL,3SPIDERY HA,3TROKUTASTI A,3TSI,3TVRIDO,3UKU",
    "3VEDE,3YATI,3YERI,3YERU,3YESTU,3YO,3YU,3ZEMLJA,3ZHIVETE,1SMALL LETTER AZU",
    "3BIG YUS,3BUKY,3CAUDATE CHRIVI,3CHRIVI,3DJERVI,3DOBRO,3DZELO,3FITA,3FRITU",
    "3GLAGOLI,3HERU,3I,3INITIAL IZHE,3IOTATED BIG YUS,4SMALL YUS,3IZHE",
    "3IZHITSA,3KAKO,3LATINATE MYSLITE,3LJUDIJE,3MYSLITE,3NASHI,3ONU,3OTU,3PE",
    "3POKOJI,3RITSI,3SHA,3SHTA,3SHTAPIC,3SLOVO,3SMALL YUS,5WITH TAIL",
    "3SPIDERY HA,3TROKUTASTI A,3TSI,3TVRIDO,3UKU,3VEDE,3YATI,3YERI,3YERU",
    "3YESTU,3YO,3YU,3ZEMLJA,3ZHIVETE,0GLASS OF MILK,0GLEICH STARK",
    "0GLOBE WITH MERIDIANS,0GLOVES,0GLOWING STAR,0GOAL NET,0GOAT,0GOGGLES",
    "0GOLFER,0GORILLA,0GOTHIC LETTER AHSA,2AIHVUS,2BAIRKAN,2DAGS,2EIS,2FAIHU",
    "2GIBA,2HAGL,2HWAIR,2IGGWS,2IUJA,2JER,2KUSMA,2LAGUS,2MANNA,2NAUTHS",
    "2NINE HUNDRED,2NINETY,2OTHAL,2PAIRTHRA,2QAIRTHRA,2RAIDA,2SAUIL,2TEIWS",
    "2THIUTH,2URUS,2WINJA,0GRADUATION CAP,0GRANTHA AU LENGTH MARK,1LETTER A",
    "2AA,2AI,2AU,2BA,2BHA,2CA,2CHA,2DA,2DDA,2DDHA,2DHA,2EE,2GA,2GHA,2HA,2I,2II",
    "2JA,2JHA,2KA,2KHA,2LA,2LLA,2MA,2NA,2NGA,2NNA,2NYA,2OO,2PA,2PHA,2RA,2SA",
    "2SHA,2SSA,2TA,2THA,2TTA,2TTHA,2U,2UU,2VA,2VEDIC ANUSVARA,3DOUBLE ANUSVARA",
    "2VOCALIC L,3LL,3R,3RR,2YA,1OM,1SIGN ANUSVARA,2AVAGRAHA,2CANDRABINDU",
    "2COMBINING ANUSVARA ABOVE,2NUKTA,2PLUTA,2VIRAMA,2VISARGA,1VOWEL SIGN AA",
    "3AI,3AU,3EE,3I,3II,3OO,3U,3UU,3VOCALIC L,4LL,4R,4RR,0GRAPES,0GRAVE ACCENT",
    "0GREATER-THAN ABOVE DOUBLE-LINE EQUAL ABOVE LESS-THAN",
    "2LESS-THAN ABOVE DOUBLE-LINE EQUAL,2RIGHTWARDS ARROW",
    "2SIMILAR ABOVE LESS-THAN,3OR EQUAL",
    "2SLANTED EQUAL ABOVE LESS-THAN ABOVE SLANTED EQUAL,1AND NOT APPROXIMATE",
    "2SINGLE-LINE NOT EQUAL TO,1BESIDE LESS-THAN,1BUT NOT EQUAL TO",
    "3EQUIVALENT TO,1CLOSED BY CURVE,4ABOVE SLANTED EQUAL",
    "1EQUAL TO OR LESS-THAN,1OR APPROXIMATE,2EQUAL TO,2EQUIVALENT TO",
    "2LESS-THAN,2SLANTED EQUAL TO,5WITH DOT ABOVE,8LEFT,7INSIDE,1OVER EQUAL TO",
    "1OVERLAPPING LESS-THAN,1SIGN,1WITH CIRCLE INSIDE,2DOT",
    "2QUESTION MARK ABOVE,0GREEK ACROPHONIC ATTIC FIFTY,4STATERS,4TALENTS",
    "4THOUSAND,5STATERS,3FIVE,4HUNDRED,5STATERS,5TALENTS,4STATERS,4TALENTS",
    "4THOUSAND,5TALENTS,3ONE DRACHMA,4HALF,4HUNDRED STATERS,5TALENTS,4QUARTER",
    "4THOUSAND STATERS,5TALENTS,3TEN MNAS,4STATERS,4TALENTS,4THOUSAND STATERS",
    "2CARYSTIAN FIVE HUNDRED,2CYRENAIC TWO DRACHMAS,2DELPHIC FIVE MNAS",
    "2EPIDAUREAN FIVE HUNDRED,3TWO,4DRACHMAS,2HERAEUM ONE PLETHRON",
    "2HERMIONIAN FIFTY,3ONE,3TEN,2MESSENIAN TEN,2NAXIAN FIVE HUNDRED",
    "2STRATIAN FIFTY MNAS,2THESPIAN FIFTY,3FIVE HUNDRED,4THOUSAND,3ONE",
    "4HUNDRED,4THOUSAND,3TEN,3THIRTY,3THREE HUNDRED,3TWO,2TROEZENIAN FIFTY",
    "4ALTERNATE FORM,3FIVE,4HUNDRED,3TEN,4ALTERNATE FORM,1ANO TELEIA",
    "1AROURA SIGN,1ARTABE SIGN,1BETA SYMBOL",
    "1CAPITAL DOTTED LUNATE SIGMA SYMBOL,2KAI SYMBOL,2LETTER ALPHA,4WITH DASIA",
    "6AND OXIA,8AND PROSGEGRAMMENI,7PERISPOMENI,8AND PROSGEGRAMMENI",
    "7PROSGEGRAMMENI,7VARIA,8AND PROSGEGRAMMENI,5MACRON,5OXIA,5PROSGEGRAMMENI",
    "5PSILI,6AND OXIA,8AND PROSGEGRAMMENI,7PERISPOMENI,8AND PROSGEGRAMMENI",
    "7PROSGEGRAMMENI,7VARIA,8AND PROSGEGRAMMENI,5TONOS,5VARIA,5VRACHY",
    "3ARCHAIC SAMPI,3BETA,3CHI,3DELTA,3EPSILON,4WITH DASIA,6AND OXIA,7VARIA",
    "5OXIA,5PSILI,6AND OXIA,7VARIA,5TONOS,5VARIA,3ETA,4WITH DASIA,6AND OXIA",
    "8AND PROSGEGRAMMENI,7PERISPOMENI,8AND PROSGEGRAMMENI,7PROSGEGRAMMENI",
    "7VARIA,8AND PROSGEGRAMMENI,5OXIA,5PROSGEGRAMMENI,5PSILI,6AND OXIA",
    "8AND PROSGEGRAMMENI,7PERISPOMENI,8AND PROSGEGRAMMENI,7PROSGEGRAMMENI",
    "7VARIA,8AND PROSGEGRAMMENI,5TONOS,5VARIA,3GAMMA,3HETA,3IOTA,4WITH DASIA",
    "6AND OXIA,7PERISPOMENI,7VARIA,5DIALYTIKA,5MACRON,5OXIA,5PSILI,6AND OXIA",
    "7PERISPOMENI,7VARIA,5TONOS,5VARIA,5VRACHY,3KAPPA,3LAMDA,3MU,3NU,3OMEGA",
    "4WITH DASIA,6AND OXIA,8AND PROSGEGRAMMENI,7PERISPOMENI",
    "8AND PROSGEGRAMMENI,7PROSGEGRAMMENI,7VARIA,8AND PROSGEGRAMMENI,5OXIA",
    "5PROSGEGRAMMENI,5PSILI,6AND OXIA,8AND PROSGEGRAMMENI,7PERISPOMENI",
    "8AND PROSGEGRAMMENI,7PROSGEGRAMMENI,7VARIA,8AND PROSGEGRAMMENI,5TONOS",
    "5VARIA,3OMICRON,4WITH DASIA,6AND OXIA,7VARIA,5OXIA,5PSILI,6AND OXIA",
    "7VARIA,5TONOS,5VARIA,3PAMPHYLIAN DIGAMMA,3PHI,3PI,3PSI,3RHO,4WITH DASIA",
    "3SAN,3SHO,3SIGMA,3TAU,3THETA,3UPSILON,4WITH DASIA,6AND OXIA,7PERISPOMENI",
    "7VARIA,5DIALYTIKA,5MACRON,5OXIA,5TONOS,5VARIA,5VRACHY,3XI,3YOT,3ZETA",
    "2LUNATE SIGMA SYMBOL,2REVERSED DOTTED LUNATE SIGMA SYMBOL",
    "3LUNATE SIGMA SYMBOL,2THETA SYMBOL,1DASIA,2AND OXIA,3PERISPOMENI,3VARIA",
    "1DIALYTIKA AND OXIA,3PERISPOMENI,3VARIA,2TONOS,1DRACHMA SIGN",
    "1FIVE OBOLS SIGN,1FOUR OBOLS SIGN,1GRAMMA SIGN,1INDICTION SIGN",
    "1INSTRUMENTAL NOTATION SYMBOL-1,3SYMBOL-11,3SYMBOL-12,3SYMBOL-13",
    "3SYMBOL-14,3SYMBOL-17,3SYMBOL-18,3SYMBOL-19,3SYMBOL-2,3SYMBOL-23",
    "3SYMBOL-24,3SYMBOL-25,3SYMBOL-26,3SYMBOL-27,3SYMBOL-29,3SYMBOL-30",
    "3SYMBOL-32,3SYMBOL-36,3SYMBOL-37,3SYMBOL-38,3SYMBOL-39,3SYMBOL-4",
    "3SYMBOL-40,3SYMBOL-42,3SYMBOL-43,3SYMBOL-45,3SYMBOL-47,3SYMBOL-48",
    "3SYMBOL-49,3SYMBOL-5,3SYMBOL-50,3SYMBOL-51,3SYMBOL-52,3SYMBOL-53",
    "3SYMBOL-54,3SYMBOL-7,3SYMBOL-8,1KAI SYMBOL,1KAPPA SYMBOL,1KORONIS",
    "1KYATHOS BASE SIGN,1LETTER ARCHAIC KOPPA,2DIGAMMA,2KOPPA,2SAMPI",
    "2SMALL CAPITAL GAMMA,4LAMDA,4OMEGA,4PI,4PSI,4RHO,2STIGMA,2YOT,1LITRA SIGN",
    "1LOWER NUMERAL SIGN,1LUNATE EPSILON SYMBOL,2SIGMA SYMBOL,1METRETES SIGN",
    "1MUSICAL LEIMMA,1NUMERAL SIGN,1OBOL SIGN,1ONE HALF SIGN,4ALTERNATE FORM",
    "2QUARTER SIGN,1OUNKIA SIGN,1OXIA,1PERISPOMENI,1PHI SYMBOL,1PI SYMBOL",
    "1PROSGEGRAMMENI,1PSILI,2AND OXIA,3PERISPOMENI,3VARIA,1QUESTION MARK",
    "1REVERSED LUNATE EPSILON SYMBOL,1RHO SYMBOL,2WITH STROKE SYMBOL",
    "1SINUSOID SIGN,1SMALL DOTTED LUNATE SIGMA SYMBOL,2LETTER ALPHA",
    "4WITH DASIA,6AND OXIA,8AND YPOGEGRAMMENI,7PERISPOMENI,8AND YPOGEGRAMMENI",
    "7VARIA,8AND YPOGEGRAMMENI,7YPOGEGRAMMENI,5MACRON,5OXIA,6AND YPOGEGRAMMENI",
    "5PERISPOMENI,6AND YPOGEGRAMMENI,5PSILI,6AND OXIA,8AND YPOGEGRAMMENI",
    "7PERISPOMENI,8AND YPOGEGRAMMENI,7VARIA,8AND YPOGEGRAMMENI,7YPOGEGRAMMENI",
    "5TONOS,5VARIA,6AND YPOGEGRAMMENI,5VRACHY,5YPOGEGRAMMENI,3ARCHAIC KOPPA",
    "4SAMPI,3BETA,3CHI,3DELTA,3DIGAMMA,3EPSILON,4WITH DASIA,6AND OXIA,7VARIA",
    "5OXIA,5PSILI,6AND OXIA,7VARIA,5TONOS,5VARIA,3ETA,4WITH DASIA,6AND OXIA",
    "8AND YPOGEGRAMMENI,7PERISPOMENI,8AND YPOGEGRAMMENI,7VARIA",
    "8AND YPOGEGRAMMENI,7YPOGEGRAMMENI,5OXIA,6AND YPOGEGRAMMENI,5PERISPOMENI",
    "6AND YPOGEGRAMMENI,5PSILI,6AND OXIA,8AND YPOGEGRAMMENI,7PERISPOMENI",
    "8AND YPOGEGRAMMENI,7VARIA,8AND YPOGEGRAMMENI,7YPOGEGRAMMENI,5TONOS,5VARIA",
    "6AND YPOGEGRAMMENI,5YPOGEGRAMMENI,3FINAL SIGMA,3GAMMA,3HETA,3IOTA",
    "4WITH DASIA,6AND OXIA,7PERISPOMENI,7VARIA,5DIALYTIKA,6AND OXIA",
    "7PERISPOMENI,7TONOS,7VARIA,5MACRON,5OXIA,5PERISPOMENI,5PSILI,6AND OXIA",
    "7PERISPOMENI,7VARIA,5TONOS,5VARIA,5VRACHY,3KAPPA,3KOPPA,3LAMDA,3MU,3NU",
    "3OMEGA,4WITH DASIA,6AND OXIA,8AND YPOGEGRAMMENI,7PERISPOMENI",
    "8AND YPOGEGRAMMENI,7VARIA,8AND YPOGEGRAMMENI,7YPOGEGRAMMENI,5OXIA",
    "6AND YPOGEGRAMMENI,5PERISPOMENI,6AND YPOGEGRAMMENI,5PSILI,6AND OXIA",
    "8AND YPOGEGRAMMENI,7PERISPOMENI,8AND YPOGEGRAMMENI,7VARIA",
    "8AND YPOGEGRAMMENI,7YPOGEGRAMMENI,5TONOS,5VARIA,6AND YPOGEGRAMMENI",
    "5YPOGEGRAMMENI,3OMICRON,4WITH DASIA,6AND OXIA,7VARIA,5OXIA,5PSILI",
    "6AND OXIA,7VARIA,5TONOS,5VARIA,3PAMPHYLIAN DIGAMMA,3PHI,3PI,3PSI,3RHO",
    "4WITH DASIA,5PSILI,3SAMPI,3SAN,3SHO,3SIGMA,3STIGMA,3TAU,3THETA,3UPSILON",
    "4WITH DASIA,6AND OXIA,7PERISPOMENI,7VARIA,5DIALYTIKA,6AND OXIA",
    "7PERISPOMENI,7TONOS,7VARIA,5MACRON,5OXIA,5PERISPOMENI,5PSILI,6AND OXIA",
    "7PERISPOMENI,7VARIA,5TONOS,5VARIA,5VRACHY,3XI,3ZETA",
    "2REVERSED DOTTED LUNATE SIGMA SYMBOL,3LUNATE SIGMA SYMBOL",
    "1SUBSCRIPT SMALL LETTER BETA,4CHI,4GAMMA,4PHI,4RHO,1SYMBOL TAU RHO",
    "1TALENT SIGN,1THETA SYMBOL,1THREE OBOLS SIGN,2QUARTERS SIGN,1TONOS",
    "1TRYBLION BASE SIGN,1TWO OBOLS SIGN,2THIRDS SIGN",
    "1UPSILON WITH ACUTE AND HOOK SYMBOL,3DIAERESIS AND HOOK SYMBOL",
    "3HOOK SYMBOL,1VARIA,1VOCAL NOTATION SYMBOL-1,3SYMBOL-10,3SYMBOL-11",
    "3SYMBOL-12,3SYMBOL-13,3SYMBOL-14,3SYMBOL-15,3SYMBOL-16,3SYMBOL-17",
    "3SYMBOL-18,3SYMBOL-19,3SYMBOL-2,3SYMBOL-20,3SYMBOL-21,3SYMBOL-22",
    "3SYMBOL-23,3SYMBOL-24,3SYMBOL-3,3SYMBOL-4,3SYMBOL-5,3SYMBOL-50,3SYMBOL-51",
    "3SYMBOL-52,3SYMBOL-53,3SYMBOL-54,3SYMBOL-6,3SYMBOL-7,3SYMBOL-8,3SYMBOL-9",
    "1XESTES SIGN,1YEAR SIGN,1YPOGEGRAMMENI,1ZERO SIGN,0GREEN APPLE,1BOOK",
    "1HEART,1SALAD,0GRIMACING FACE,0GRINNING CAT FACE WITH SMILING EYES,1FACE",
    "2WITH ONE LARGE AND ONE SMALL EYE,3SMILING EYES,3STAR EYES,0GROUP MARK",
    "1SEPARATOR,0GROWING HEART,0GS,0GUARANI SIGN,0GUARDSMAN,0GUIDE DOG,0GUITAR",
    "0GUJARATI ABBREVIATION SIGN,1DIGIT EIGHT,2FIVE,2FOUR,2NINE,2ONE,2SEVEN",
    "2SIX,2THREE,2TWO,2ZERO,1LETTER A,2AA,2AI,2AU,2BA,2BHA,2CA,2CHA,2DA,2DDA",
    "2DDHA,2DHA,2E,2GA,2GHA,2HA,2I,2II,2JA,2JHA,2KA,2KHA,2LA,2LLA,2MA,2NA,2NGA",
    "2NNA,2NYA,2O,2PA,2PHA,2RA,2SA,2SHA,2SSA,2TA,2THA,2TTA,2TTHA,2U,2UU,2VA",
    "2VOCALIC L,3LL,3R,3RR,2YA,2ZHA,1OM,1RUPEE SIGN,1SIGN ANUSVARA,2AVAGRAHA",
    "2CANDRABINDU,2CIRCLE NUKTA ABOVE,2MADDAH,2NUKTA,2SHADDA,2SUKUN",
    "2THREE-DOT NUKTA ABOVE,2TWO-CIRCLE NUKTA ABOVE,2VIRAMA,2VISARGA",
    "1VOWEL CANDRA E,3O,2SIGN AA,3AI,3AU,3CANDRA E,4O,3E,3I,3II,3O,3U,3UU",
    "3VOCALIC L,4LL,4R,4RR,0GUNJALA GONDI DIGIT EIGHT,3FIVE,3FOUR,3NINE,3ONE",
    "3SEVEN,3SIX,3THREE,3TWO,3ZERO,2LETTER A,3AA,3AI,3AU,3BA,3BHA,3CA,3CHA,3DA",
    "3DDA,3DDHA,3DHA,3EE,3GA,3GHA,3HA,3I,3II,3JA,3JHA,3KA,3KHA,3LA,3LLA,3MA",
    "3NA,3NGA,3OO,3PA,3PHA,3RA,3SA,3TA,3THA,3TTA,3TTHA,3U,3UU,3VA,3YA,2OM",
    "2SIGN ANUSVARA,3VISARGA,2VIRAMA,2VOWEL SIGN AA,4AI,4AU,4EE,4I,4II,4OO,4U",
    "4UU,0GURMUKHI ABBREVIATION SIGN,1ADDAK,1DIGIT EIGHT,2FIVE,2FOUR,2NINE",
    "2ONE,2SEVEN,2SIX,2THREE,2TWO,2ZERO,1EK ONKAR,1IRI,1LETTER A,2AA,2AI,2AU",
    "2BA,2BHA,2CA,2CHA,2DA,2DDA,2DDHA,2DHA,2EE,2FA,2GA,2GHA,2GHHA,2HA,2I,2II",
    "2JA,2JHA,2KA,2KHA,2KHHA,2LA,2LLA,2MA,2NA,2NGA,2NNA,2NYA,2OO,2PA,2PHA,2RA",
    "2RRA,2SA,2SHA,2TA,2THA,2TTA,2TTHA,2U,2UU,2VA,2YA,2ZA,1SIGN ADAK BINDI",
    "2BINDI,2NUKTA,2UDAAT,2VIRAMA,2VISARGA,2YAKASH,1TIPPI,1URA,1VOWEL SIGN AA",
    "3AI,3AU,3EE,3I,3II,3OO,3U,3UU,0HADES,0HAIR SPACE,0HAIRCUT",
    "0HALFWIDTH BLACK SQUARE,1DOWNWARDS ARROW,1FORMS LIGHT VERTICAL",
    "1HANGUL FILLER,2LETTER A,3AE,3CHIEUCH,3CIEUC,3E,3EO,3EU,3HIEUH,3I,3IEUNG",
    "3KHIEUKH,3KIYEOK,3KIYEOK-SIOS,3MIEUM,3NIEUN,3NIEUN-CIEUC,3NIEUN-HIEUH,3O",
    "3OE,3PHIEUPH,3PIEUP,3PIEUP-SIOS,3RIEUL,3RIEUL-HIEUH,3RIEUL-KIYEOK",
    "3RIEUL-MIEUM,3RIEUL-PHIEUPH,3RIEUL-PIEUP,3RIEUL-SIOS,3RIEUL-THIEUTH,3SIOS",
    "3SSANGCIEUC,3SSANGKIYEOK,3SSANGPIEUP,3SSANGSIOS,3SSANGTIKEUT,3THIEUTH",
    "3TIKEUT,3U,3WA,3WAE,3WE,3WEO,3WI,3YA,3YAE,3YE,3YEO,3YI,3YO,3YU",
    "1IDEOGRAPHIC COMMA,2FULL STOP,1KATAKANA LETTER A,3E,3HA,3HE,3HI,3HO,3HU",
    "3I,3KA,3KE,3KI,3KO,3KU,3MA,3ME,3MI,3MO,3MU,3N,3NA,3NE,3NI,3NO,3NU,3O,3RA",
    "3RE,3RI,3RO,3RU,3SA,3SE,3SI,3SMALL A,4E,4I,4O,4TU,4U,4YA,4YO,4YU,3SO,3SU",
    "3TA,3TE,3TI,3TO,3TU,3U,3WA,3WO,3YA,3YO,3YU,2MIDDLE DOT",
    "2SEMI-VOICED SOUND MARK,2VOICED SOUND MARK",
    "1KATAKANA-HIRAGANA PROLONGED SOUND MARK,1LEFT CORNER BRACKET",
    "1LEFTWARDS ARROW,1RIGHT CORNER BRACKET,1RIGHTWARDS ARROW,1UPWARDS ARROW",
    "1WHITE CIRCLE,0HAMBURGER,0HAMMER,1AND PICK,2SICKLE,2WRENCH,0HAMSA",
    "0HAMSTER FACE,0HAND WITH INDEX AND MIDDLE FINGERS CROSSED",
    "3FINGER AND THUMB CROSSED,0HANDBAG,0HANDBALL,0HANDSHAKE",
    "0HANGUL CHOSEONG CEONGCHIEUMCHIEUCH,2CEONGCHIEUMCIEUC,2CEONGCHIEUMSIOS",
    "2CEONGCHIEUMSSANGCIEUC,2CEONGCHIEUMSSANGSIOS,2CHIEUCH,2CHIEUCH-HIEUH",
    "2CHIEUCH-KHIEUKH,2CHITUEUMCHIEUCH,2CHITUEUMCIEUC,2CHITUEUMSIOS",
    "2CHITUEUMSSANGCIEUC,2CHITUEUMSSANGSIOS,2CIEUC,2CIEUC-IEUNG,2FILLER,2HIEUH",
    "2HIEUH-SIOS,2IEUNG,2IEUNG-CHIEUCH,2IEUNG-CIEUC,2IEUNG-HIEUH,2IEUNG-KIYEOK",
    "2IEUNG-MIEUM,2IEUNG-PANSIOS,2IEUNG-PHIEUPH,2IEUNG-PIEUP,2IEUNG-RIEUL",
    "2IEUNG-SIOS,2IEUNG-THIEUTH,2IEUNG-TIKEUT,2KAPYEOUNMIEUM,2KAPYEOUNPHIEUPH",
    "2KAPYEOUNPIEUP,2KAPYEOUNRIEUL,2KAPYEOUNSSANGPIEUP,2KHIEUKH,2KIYEOK",
    "2KIYEOK-TIKEUT,2MIEUM,2MIEUM-KIYEOK,2MIEUM-PIEUP,2MIEUM-SIOS",
    "2MIEUM-TIKEUT,2NIEUN,2NIEUN-CIEUC,2NIEUN-HIEUH,2NIEUN-KIYEOK,2NIEUN-PIEUP",
    "2NIEUN-SIOS,2NIEUN-TIKEUT,2PANSIOS,2PHIEUPH,2PHIEUPH-HIEUH,2PHIEUPH-PIEUP",
    "2PIEUP,2PIEUP-CHIEUCH,2PIEUP-CIEUC,2PIEUP-HIEUH,2PIEUP-KHIEUKH",
    "2PIEUP-KIYEOK,2PIEUP-NIEUN,2PIEUP-PHIEUPH,2PIEUP-SIOS,2PIEUP-SIOS-CIEUC",
    "2PIEUP-SIOS-KIYEOK,2PIEUP-SIOS-PIEUP,2PIEUP-SIOS-THIEUTH",
    "2PIEUP-SIOS-TIKEUT,2PIEUP-SSANGSIOS,2PIEUP-THIEUTH,2PIEUP-TIKEUT,2RIEUL",
    "2RIEUL-CIEUC,2RIEUL-HIEUH,2RIEUL-KAPYEOUNPIEUP,2RIEUL-KHIEUKH",
    "2RIEUL-KIYEOK,2RIEUL-MIEUM,2RIEUL-NIEUN,2RIEUL-PIEUP,2RIEUL-SIOS",
    "2RIEUL-SSANGKIYEOK,2RIEUL-SSANGPIEUP,2RIEUL-SSANGTIKEUT,2RIEUL-TIKEUT",
    "2SIOS,2SIOS-CHIEUCH,2SIOS-CIEUC,2SIOS-HIEUH,2SIOS-IEUNG,2SIOS-KHIEUKH",
    "2SIOS-KIYEOK,2SIOS-MIEUM,2SIOS-NIEUN,2SIOS-PHIEUPH,2SIOS-PIEUP",
    "2SIOS-PIEUP-KIYEOK,2SIOS-RIEUL,2SIOS-SSANGSIOS,2SIOS-THIEUTH,2SIOS-TIKEUT",
    "2SSANGCIEUC,2SSANGCIEUC-HIEUH,2SSANGHIEUH,2SSANGIEUNG,2SSANGKIYEOK",
    "2SSANGNIEUN,2SSANGPIEUP,2SSANGRIEUL,2SSANGSIOS,2SSANGSIOS-PIEUP",
    "2SSANGTHIEUTH,2SSANGTIKEUT,2SSANGYEORINHIEUH,2THIEUTH,2TIKEUT",
    "2TIKEUT-CIEUC,2TIKEUT-KIYEOK,2TIKEUT-MIEUM,2TIKEUT-PIEUP,2TIKEUT-RIEUL",
    "2TIKEUT-SIOS,2YEORINHIEUH,2YESIEUNG,1DOUBLE DOT TONE MARK,1FILLER",
    "1JONGSEONG CHIEUCH,2CIEUC,2CIEUC-PIEUP,2CIEUC-SSANGPIEUP,2HIEUH",
    "2HIEUH-MIEUM,2HIEUH-NIEUN,2HIEUH-PIEUP,2HIEUH-RIEUL,2IEUNG,2IEUNG-KHIEUKH",
    "2IEUNG-KIYEOK,2IEUNG-SSANGKIYEOK,2KAPYEOUNMIEUM,2KAPYEOUNPHIEUPH",
    "2KAPYEOUNPIEUP,2KAPYEOUNRIEUL,2KHIEUKH,2KIYEOK,2KIYEOK-CHIEUCH",
    "2KIYEOK-HIEUH,2KIYEOK-KHIEUKH,2KIYEOK-NIEUN,2KIYEOK-PIEUP,2KIYEOK-RIEUL",
    "2KIYEOK-SIOS,2KIYEOK-SIOS-KIYEOK,2MIEUM,2MIEUM-CHIEUCH,2MIEUM-CIEUC",
    "2MIEUM-HIEUH,2MIEUM-KIYEOK,2MIEUM-NIEUN,2MIEUM-PANSIOS,2MIEUM-PIEUP",
    "2MIEUM-PIEUP-SIOS,2MIEUM-RIEUL,2MIEUM-SIOS,2MIEUM-SSANGNIEUN",
    "2MIEUM-SSANGSIOS,2NIEUN,2NIEUN-CHIEUCH,2NIEUN-CIEUC,2NIEUN-HIEUH",
    "2NIEUN-KIYEOK,2NIEUN-PANSIOS,2NIEUN-RIEUL,2NIEUN-SIOS,2NIEUN-THIEUTH",
    "2NIEUN-TIKEUT,2PANSIOS,2PANSIOS-KAPYEOUNPIEUP,2PANSIOS-PIEUP,2PHIEUPH",
    "2PHIEUPH-PIEUP,2PHIEUPH-SIOS,2PHIEUPH-THIEUTH,2PIEUP,2PIEUP-CHIEUCH",
    "2PIEUP-CIEUC,2PIEUP-HIEUH,2PIEUP-MIEUM,2PIEUP-PHIEUPH,2PIEUP-RIEUL",
    "2PIEUP-RIEUL-PHIEUPH,2PIEUP-SIOS,2PIEUP-SIOS-TIKEUT,2PIEUP-TIKEUT,2RIEUL",
    "2RIEUL-HIEUH,2RIEUL-KAPYEOUNPIEUP,2RIEUL-KHIEUKH,2RIEUL-KIYEOK",
    "2RIEUL-KIYEOK-HIEUH,2RIEUL-KIYEOK-SIOS,2RIEUL-MIEUM,2RIEUL-MIEUM-HIEUH",
    "2RIEUL-MIEUM-KIYEOK,2RIEUL-MIEUM-SIOS,2RIEUL-NIEUN,2RIEUL-PANSIOS",
    "2RIEUL-PHIEUPH,2RIEUL-PIEUP,2RIEUL-PIEUP-HIEUH,2RIEUL-PIEUP-PHIEUPH",
    "2RIEUL-PIEUP-SIOS,2RIEUL-PIEUP-TIKEUT,2RIEUL-SIOS,2RIEUL-SSANGKIYEOK",
    "2RIEUL-SSANGSIOS,2RIEUL-THIEUTH,2RIEUL-TIKEUT,2RIEUL-TIKEUT-HIEUH",
    "2RIEUL-YEORINHIEUH,2RIEUL-YEORINHIEUH-HIEUH,2RIEUL-YESIEUNG,2SIOS",
    "2SIOS-CHIEUCH,2SIOS-CIEUC,2SIOS-HIEUH,2SIOS-KAPYEOUNPIEUP,2SIOS-KIYEOK",
    "2SIOS-MIEUM,2SIOS-PANSIOS,2SIOS-PIEUP,2SIOS-RIEUL,2SIOS-THIEUTH",
    "2SIOS-TIKEUT,2SSANGCIEUC,2SSANGIEUNG,2SSANGKIYEOK,2SSANGMIEUM,2SSANGNIEUN",
    "2SSANGPIEUP,2SSANGRIEUL,2SSANGRIEUL-KHIEUKH,2SSANGSIOS,2SSANGSIOS-KIYEOK",
    "2SSANGSIOS-TIKEUT,2SSANGTIKEUT,2SSANGTIKEUT-PIEUP,2SSANGYESIEUNG,2THIEUTH",
    "2TIKEUT,2TIKEUT-CHIEUCH,2TIKEUT-CIEUC,2TIKEUT-KIYEOK,2TIKEUT-PIEUP",
    "2TIKEUT-RIEUL,2TIKEUT-SIOS,2TIKEUT-SIOS-KIYEOK,2TIKEUT-THIEUTH",
    "2YEORINHIEUH,2YESIEUNG,2YESIEUNG-HIEUH,2YESIEUNG-KHIEUKH,2YESIEUNG-KIYEOK",
    "2YESIEUNG-MIEUM,2YESIEUNG-PANSIOS,2YESIEUNG-SIOS,2YESIEUNG-SSANGKIYEOK",
    "1JUNGSEONG A,2A-EU,2A-O,2A-U,2AE,2ARAEA,2ARAEA-A,2ARAEA-E,2ARAEA-EO",
    "2ARAEA-I,2ARAEA-U,2E,2EO,2EO-EU,2EO-O,2EO-U,2EU,2EU-A,2EU-E,2EU-EO,2EU-EU",
    "2EU-O,2EU-U,2FILLER,2I,2I-A,2I-ARAEA,2I-EU,2I-I,2I-O,2I-O-I,2I-U,2I-YA",
    "2I-YA-O,2I-YAE,2I-YE,2I-YEO,2I-YO,2I-YU,2O,2O-E,2O-EO,2O-O,2O-O-I,2O-U",
    "2O-YA,2O-YAE,2O-YE,2O-YEO,2OE,2SSANGARAEA,2U,2U-A,2U-AE,2U-EO-EU,2U-I-I",
    "2U-U,2U-YE,2U-YEO,2WA,2WAE,2WE,2WEO,2WI,2YA,2YA-O,2YA-U,2YA-YO,2YAE,2YE",
    "2YEO,2YEO-O,2YEO-U,2YEO-YA,2YI,2YI-U,2YO,2YO-A,2YO-AE,2YO-EO,2YO-I,2YO-O",
    "2YO-YA,2YO-YAE,2YO-YEO,2YU,2YU-A,2YU-AE,2YU-E,2YU-EO,2YU-I,2YU-O,2YU-U",
    "2YU-YE,2YU-YEO,1LETTER A,2AE,2ARAEA,2ARAEAE,2CHIEUCH,2CIEUC,2E,2EO,2EU",
    "2HIEUH,2I,2IEUNG,2KAPYEOUNMIEUM,2KAPYEOUNPHIEUPH,2KAPYEOUNPIEUP",
    "2KAPYEOUNSSANGPIEUP,2KHIEUKH,2KIYEOK,2KIYEOK-SIOS,2MIEUM,2MIEUM-PANSIOS",
    "2MIEUM-PIEUP,2MIEUM-SIOS,2NIEUN,2NIEUN-CIEUC,2NIEUN-HIEUH,2NIEUN-PANSIOS",
    "2NIEUN-SIOS,2NIEUN-TIKEUT,2O,2OE,2PANSIOS,2PHIEUPH,2PIEUP,2PIEUP-CIEUC",
    "2PIEUP-KIYEOK,2PIEUP-SIOS,2PIEUP-SIOS-KIYEOK,2PIEUP-SIOS-TIKEUT",
    "2PIEUP-THIEUTH,2PIEUP-TIKEUT,2RIEUL,2RIEUL-HIEUH,2RIEUL-KIYEOK",
    "2RIEUL-KIYEOK-SIOS,2RIEUL-MIEUM,2RIEUL-PANSIOS,2RIEUL-PHIEUPH",
    "2RIEUL-PIEUP,2RIEUL-PIEUP-SIOS,2RIEUL-SIOS,2RIEUL-THIEUTH,2RIEUL-TIKEUT",
    "2RIEUL-YEORINHIEUH,2SIOS,2SIOS-CIEUC,2SIOS-KIYEOK,2SIOS-NIEUN,2SIOS-PIEUP",
    "2SIOS-TIKEUT,2SSANGCIEUC,2SSANGHIEUH,2SSANGIEUNG,2SSANGKIYEOK,2SSANGNIEUN",
    "2SSANGPIEUP,2SSANGSIOS,2SSANGTIKEUT,2THIEUTH,2TIKEUT,2U,2WA,2WAE,2WE,2WEO",
    "2WI,2YA,2YAE,2YE,2YEO,2YEORINHIEUH,2YESIEUNG,2YESIEUNG-PANSIOS",
    "2YESIEUNG-SIOS,2YI,2YO,2YO-I,2YO-YA,2YO-YAE,2YU,2YU-I,2YU-YE,2YU-YEO",
    "1SINGLE DOT TONE MARK,0HANGZHOU NUMERAL EIGHT,2FIVE,2FOUR,2NINE,2ONE",
    "2SEVEN,2SIX,2TEN,2THIRTY,2THREE,2TWENTY,2TWO,0HANIFI ROHINGYA DIGIT EIGHT",
    "3FIVE,3FOUR,3NINE,3ONE,3SEVEN,3SIX,3THREE,3TWO,3ZERO,2LETTER A,3BA,3CA",
    "3DA,3DDA,3FA,3GA,3HA,3JA,3KA,3KHA,3KINNA WA,4YA,3LA,3MA,3NA,3NGA,3NYA,3PA",
    "3RA,3RRA,3SA,3SHA,3TA,3TTA,3VA,3WA,3YA,3ZA,2MARK NA KHONNA,3SAKIN",
    "2SIGN HARBAHAY,3TAHALA,3TANA,3TASSI,2VOWEL A,3E,3I,3O,3U",
    "0HANUNOO LETTER A,2BA,2DA,2GA,2HA,2I,2KA,2LA,2MA,2NA,2NGA,2PA,2RA,2SA,2TA",
    "2U,2WA,2YA,1SIGN PAMUDPOD,1VOWEL SIGN I,3U,0HAPPY PERSON RAISING ONE HAND",
    "0HARD DISK,0HATCHING CHICK,0HATRAN LETTER ALEPH,2AYN,2BETH,2DALETH-RESH",
    "2GIMEL,2HE,2HETH,2KAPH,2LAMEDH,2MEM,2NUN,2PE,2QOPH,2SADHE,2SAMEKH,2SHIN",
    "2TAW,2TETH,2WAW,2YODH,2ZAYN,1NUMBER FIVE,2ONE,3HUNDRED,2TEN,2TWENTY",
    "0HEADPHONE,0HEADSTONE,1GRAVEYARD SYMBOL,0HEAR-NO-EVIL MONKEY",
    "0HEART DECORATION,1HANDS,1WITH ARROW,2RIBBON,2TIP ON THE LEFT",
    "0HEAVY AMPERSAND ORNAMENT,1ARROW SHAFT WIDTH ONE,5HALF,5THIRD,4TWO THIRDS",
    "1ASTERISK,1BALLOT X,1BLACK CURVED DOWNWARDS AND RIGHTWARDS ARROW",
    "3UPWARDS AND RIGHTWARDS ARROW,2HEART,1BLACK-FEATHERED NORTH EAST ARROW",
    "2RIGHTWARDS ARROW,2SOUTH EAST ARROW,1CHECK MARK,1CHEVRON SNOWFLAKE",
    "1CIRCLE,2WITH CIRCLE INSIDE,3STROKE AND TWO DOTS ABOVE,1CIRCLED SALTIRE",
    "1CONCAVE-POINTED BLACK RIGHTWARDS ARROW",
    "1DASHED TRIANGLE-HEADED RIGHTWARDS ARROW,1DIVISION SIGN,1DOLLAR SIGN",
    "1DOUBLE COMMA QUOTATION MARK ORNAMENT",
    "2TURNED COMMA QUOTATION MARK ORNAMENT",
    "1DOWNWARDS ARROW WITH EQUILATERAL ARROWHEAD,4LARGE EQUILATERAL ARROWHEAD",
    "1EIGHT POINTED BLACK STAR,3PINWHEEL STAR,3RECTILINEAR BLACK STAR",
    "2SPOKED ASTERISK,2TEARDROP-SPOKED PROPELLER ASTERISK,1EQUALS SIGN",
    "1EXCLAMATION MARK ORNAMENT,3SYMBOL,1FIVE POINTED BLACK STAR",
    "2SPOKED ASTERISK,1FOUR BALLOON-SPOKED ASTERISK,1GREEK CROSS",
    "1HEART EXCLAMATION MARK ORNAMENT,1HORIZONTAL FILL,1INTERROBANG ORNAMENT",
    "1LARGE CIRCLE,1LATIN CROSS,1LEFT-POINTING ANGLE BRACKET ORNAMENT",
    "3QUOTATION MARK ORNAMENT,1LEFTWARDS ARROW WITH EQUILATERAL ARROWHEAD",
    "4LARGE EQUILATERAL ARROWHEAD,1LIGATURE OPEN ET ORNAMENT",
    "1LOW DOUBLE COMMA QUOTATION MARK ORNAMENT",
    "2SINGLE COMMA QUOTATION MARK ORNAMENT",
    "1LOWER RIGHT-SHADOWED WHITE RIGHTWARDS ARROW,1MINUS SIGN",
    "1MULTIPLICATION X,1NORTH EAST ARROW,3POINTING BUD,4VINE LEAF",
    "2WEST POINTING BUD,4VINE LEAF,1OPEN CENTRE CROSS,1OUTLINED BLACK STAR",
    "1OVAL WITH OVAL INSIDE,1PLUS SIGN,1RIGHT-POINTING ANGLE BRACKET ORNAMENT",
    "3QUOTATION MARK ORNAMENT,1RIGHTWARDS ARROW,3WITH EQUILATERAL ARROWHEAD",
    "4LARGE EQUILATERAL ARROWHEAD,1ROUND-TIPPED RIGHTWARDS ARROW,1SALTIRE",
    "1SANS-SERIF INTERROBANG ORNAMENT,1SCRIPT LIGATURE ET ORNAMENT",
    "1SINGLE COMMA QUOTATION MARK ORNAMENT",
    "2TURNED COMMA QUOTATION MARK ORNAMENT,1SIX POINTED BLACK STAR",
    "2SPOKED ASTERISK,1SOUTH EAST ARROW,3POINTING BUD,4VINE LEAF",
    "2WEST POINTING BUD,4VINE LEAF,1SPARKLE,1TEARDROP-SHANKED RIGHTWARDS ARROW",
    "1TEARDROP-SPOKED ASTERISK,2PINWHEEL ASTERISK",
    "1TRIANGLE-HEADED RIGHTWARDS ARROW,1TWELVE POINTED BLACK STAR",
    "3PINWHEEL STAR,1UPPER RIGHT-SHADOWED WHITE RIGHTWARDS ARROW",
    "1UPWARDS ARROW WITH EQUILATERAL ARROWHEAD,4LARGE EQUILATERAL ARROWHEAD",
    "1VERTICAL BAR,1WEDGE-TAILED RIGHTWARDS ARROW,1WHITE CIRCLE",
    "2DOWN-POINTING TRIANGLE,2SQUARE,1WIDE-HEADED RIGHTWARDS ARROW",
    "0HEBREW ACCENT ATNAH HAFUKH,2DARGA,2DEHI,2ETNAHTA,2GERESH,3MUQDAM",
    "2GERSHAYIM,2ILUY,2MAHAPAKH,2MERKHA,3KEFULA,2MUNAH,2OLE,2PASHTA,2PAZER",
    "2QADMA,2QARNEY PARA,2REVIA,2SEGOL,2SHALSHELET,2TELISHA GEDOLA,3QETANA",
    "2TEVIR,2TIPEHA,2YERAH BEN YOMO,2YETIV,2ZAQEF GADOL,3QATAN,2ZARQA,2ZINOR",
    "1LETTER ALEF,3WITH MAPIQ,4PATAH,4QAMATS,2ALTERNATIVE AYIN,3PLUS SIGN",
    "2AYIN,2BET,3WITH DAGESH,4RAFE,2DALET,3WITH DAGESH,2FINAL KAF,4WITH DAGESH",
    "3MEM,3NUN,3PE,4WITH DAGESH,3TSADI,2GIMEL,3WITH DAGESH,2HE,3WITH MAPIQ",
    "2HET,2KAF,3WITH DAGESH,4RAFE,2LAMED,3WITH DAGESH,2MEM,3WITH DAGESH,2NUN",
    "3WITH DAGESH,2PE,3WITH DAGESH,4RAFE,2QOF,3WITH DAGESH,2RESH,3WITH DAGESH",
    "2SAMEKH,3WITH DAGESH,2SHIN,3WITH DAGESH,5AND SHIN DOT,6SIN DOT,4SHIN DOT",
    "4SIN DOT,2TAV,3WITH DAGESH,2TET,3WITH DAGESH,2TSADI,3WITH DAGESH,2VAV",
    "3WITH DAGESH,4HOLAM,2WIDE ALEF,3DALET,3FINAL MEM,3HE,3KAF,3LAMED,3RESH",
    "3TAV,2YOD,3WITH DAGESH,4HIRIQ,2ZAYIN,3WITH DAGESH,1LIGATURE ALEF LAMED",
    "2YIDDISH DOUBLE VAV,4YOD,3VAV YOD,3YOD YOD PATAH,1MARK LOWER DOT",
    "2MASORA CIRCLE,2UPPER DOT,1POINT DAGESH OR MAPIQ,2HATAF PATAH,3QAMATS",
    "3SEGOL,2HIRIQ,2HOLAM,3HASER FOR VAV,2JUDEO-SPANISH VARIKA,2METEG,2PATAH",
    "2QAMATS,3QATAN,2QUBUTS,2RAFE,2SEGOL,2SHEVA,2SHIN DOT,2SIN DOT,2TSERE",
    "1PUNCTUATION GERESH,2GERSHAYIM,2MAQAF,2NUN HAFUKHA,2PASEQ,2SOF PASUQ",
    "1YOD TRIANGLE,0HEDGEHOG,0HELICOPTER,0HELLSCHREIBER PAUSE SYMBOL",
    "0HELM SYMBOL,0HELMET WITH WHITE CROSS,0HENTAIGANA LETTER A-1,2A-2,2A-3",
    "2A-WO,2E-1,2E-2,2E-3,2E-4,2E-5,2E-6,2HA-1,2HA-10,2HA-11,2HA-2,2HA-3,2HA-4",
    "2HA-5,2HA-6,2HA-7,2HA-8,2HA-9,2HE-1,2HE-2,2HE-3,2HE-4,2HE-5,2HE-6,2HE-7",
    "2HI-1,2HI-2,2HI-3,2HI-4,2HI-5,2HI-6,2HI-7,2HO-1,2HO-2,2HO-3,2HO-4,2HO-5",
    "2HO-6,2HO-7,2HO-8,2HU-1,2HU-2,2HU-3,2I-1,2I-2,2I-3,2I-4,2KA-1,2KA-10",
    "2KA-11,2KA-2,2KA-3,2KA-4,2KA-5,2KA-6,2KA-7,2KA-8,2KA-9,2KA-KE,2KE-1,2KE-2",
    "2KE-3,2KE-4,2KE-5,2KE-6,2KI-1,2KI-2,2KI-3,2KI-4,2KI-5,2KI-6,2KI-7,2KI-8",
    "2KO-1,2KO-2,2KO-3,2KO-KI,2KU-1,2KU-2,2KU-3,2KU-4,2KU-5,2KU-6,2KU-7,2MA-1",
    "2MA-2,2MA-3,2MA-4,2MA-5,2MA-6,2MA-7,2ME-1,2ME-2,2ME-MA,2MI-1,2MI-2,2MI-3",
    "2MI-4,2MI-5,2MI-6,2MI-7,2MO-1,2MO-2,2MO-3,2MO-4,2MO-5,2MO-6,2MU-1,2MU-2",
    "2MU-3,2MU-4,2N-MU-MO-1,2N-MU-MO-2,2NA-1,2NA-2,2NA-3,2NA-4,2NA-5,2NA-6",
    "2NA-7,2NA-8,2NA-9,2NE-1,2NE-2,2NE-3,2NE-4,2NE-5,2NE-6,2NE-KO,2NI-1,2NI-2",
    "2NI-3,2NI-4,2NI-5,2NI-6,2NI-7,2NI-TE,2NO-1,2NO-2,2NO-3,2NO-4,2NO-5,2NU-1",
    "2NU-2,2NU-3,2O-1,2O-2,2O-3,2RA-1,2RA-2,2RA-3,2RA-4,2RE-1,2RE-2,2RE-3",
    "2RE-4,2RI-1,2RI-2,2RI-3,2RI-4,2RI-5,2RI-6,2RI-7,2RO-1,2RO-2,2RO-3,2RO-4",
    "2RO-5,2RO-6,2RU-1,2RU-2,2RU-3,2RU-4,2RU-5,2RU-6,2SA-1,2SA-2,2SA-3,2SA-4",
    "2SA-5,2SA-6,2SA-7,2SA-8,2SE-1,2SE-2,2SE-3,2SE-4,2SE-5,2SI-1,2SI-2,2SI-3",
    "2SI-4,2SI-5,2SI-6,2SO-1,2SO-2,2SO-3,2SO-4,2SO-5,2SO-6,2SO-7,2SU-1,2SU-2",
    "2SU-3,2SU-4,2SU-5,2SU-6,2SU-7,2SU-8,2TA-1,2TA-2,2TA-3,2TA-4,2TE-1,2TE-2",
    "2TE-3,2TE-4,2TE-5,2TE-6,2TE-7,2TE-8,2TE-9,2TI-1,2TI-2,2TI-3,2TI-4,2TI-5",
    "2TI-6,2TI-7,2TO-1,2TO-2,2TO-3,2TO-4,2TO-5,2TO-6,2TO-RA,2TU-1,2TU-2,2TU-3",
    "2TU-4,2TU-TO,2U-1,2U-2,2U-3,2U-4,2U-5,2WA-1,2WA-2,2WA-3,2WA-4,2WA-5,2WE-1",
    "2WE-2,2WE-3,2WE-4,2WI-1,2WI-2,2WI-3,2WI-4,2WI-5,2WO-1,2WO-2,2WO-3,2WO-4",
    "2WO-5,2WO-6,2WO-7,2YA-1,2YA-2,2YA-3,2YA-4,2YA-5,2YA-YO,2YO-1,2YO-2,2YO-3",
    "2YO-4,2YO-5,2YO-6,2YU-1,2YU-2,2YU-3,2YU-4,0HERB",
    "0HERMITIAN CONJUGATE MATRIX,0HEXAGRAM FOR ABUNDANCE,2AFTER COMPLETION",
    "2APPROACH,2BEFORE COMPLETION,2BITING THROUGH,2BREAKTHROUGH",
    "2COMING TO MEET,2CONFLICT,2CONTEMPLATION,2DARKENING OF THE LIGHT",
    "2DECREASE,2DELIVERANCE,2DEVELOPMENT,2DIFFICULTY AT THE BEGINNING",
    "2DISPERSION,2DURATION,2ENTHUSIASM,2FELLOWSHIP,2FOLLOWING",
    "2GATHERING TOGETHER,2GRACE,2GREAT POSSESSION,3POWER,3PREPONDERANCE",
    "3TAMING,2HOLDING TOGETHER,2INCREASE,2INFLUENCE,2INNER TRUTH,2INNOCENCE",
    "2LIMITATION,2MODESTY,2MOUTH CORNERS,2OBSTRUCTION,2OPPOSITION,2OPPRESSION",
    "2PEACE,2PROGRESS,2PUSHING UPWARD,2RETREAT,2RETURN,2REVOLUTION",
    "2SMALL PREPONDERANCE,3TAMING,2SPLITTING APART,2STANDSTILL",
    "2THE ABYSMAL WATER,3ARMY,3AROUSING THUNDER,3CAULDRON,3CLINGING FIRE",
    "3CREATIVE HEAVEN,3FAMILY,3GENTLE WIND,3JOYOUS LAKE",
    "3KEEPING STILL MOUNTAIN,3MARRYING MAIDEN,3RECEPTIVE EARTH,3WANDERER,3WELL",
    "2TREADING,2WAITING,2WORK ON THE DECAYED,2YOUTHFUL FOLLY,0HIBISCUS",
    "0HIGH BRIGHTNESS SYMBOL,1OCTET PRESET,1VOLTAGE SIGN,0HIGH-HEELED SHOE",
    "0HIGH-SPEED TRAIN,2WITH BULLET NOSE,0HIKING BOOT,0HINDU TEMPLE",
    "0HIPPOPOTAMUS,0HIRAGANA DIGRAPH YORI,1ITERATION MARK,1LETTER A",
    "2ARCHAIC WU,3YE,2BA,2BE,2BI,2BO,2BU,2DA,2DE,2DI,2DO,2DU,2E,2GA,2GE,2GI",
    "2GO,2GU,2HA,2HE,2HI,2HO,2HU,2I,2KA,2KE,2KI,2KO,2KU,2MA,2ME,2MI,2MO,2MU,2N",
    "2NA,2NE,2NI,2NO,2NU,2O,2PA,2PE,2PI,2PO,2PU,2RA,2RE,2RI,2RO,2RU,2SA,2SE",
    "2SI,2SMALL A,3E,3I,3KA,3KE,3O,3TU,3U,3WA,3WE,3WI,3WO,3YA,3YO,3YU,2SO,2SU",
    "2TA,2TE,2TI,2TO,2TU,2U,2VU,2WA,2WE,2WI,2WO,2YA,2YO,2YU,2ZA,2ZE,2ZI,2ZO",
    "2ZU,1VOICED ITERATION MARK,0HISTORIC SITE,0HOCHO,0HOLE",
    "0HOLLOW QUILT SQUARE ORNAMENT,4IN BLACK SQUARE,0HOMOTHETIC,0HONEY POT",
    "0HONEYBEE,0HOOK,0HOP,0HORIZONTAL BAR,1BLACK HEXAGON,2OCTAGON,1ELLIPSIS",
    "1LINE EXTENSION,1MALE WITH STROKE SIGN,1ONE EIGHTH BLOCK-1358,3BLOCK-2",
    "3BLOCK-3,3BLOCK-4,3BLOCK-5,3BLOCK-6,3BLOCK-7,1SCAN LINE-1,2LINE-3,2LINE-7",
    "2LINE-9,1TAB KEY,1TABULATION,2SET,2WITH JUSTIFICATION,1TRAFFIC LIGHT",
    "0HORSE,1FACE,1RACING,0HOSPITAL,0HOT BEVERAGE,1DOG,1PEPPER,1SPRINGS,0HOTEL",
    "0HOURGLASS,1WITH FLOWING SAND,0HOUSE,1BUILDING,1BUILDINGS,1WITH GARDEN",
    "0HRYVNIA SIGN,0HT,0HTJ,0HTS,0HUGGING FACE,0HUNDRED POINTS SYMBOL",
    "0HUSHED FACE,0HUT,0HYGIEA,0HYPHEN,1BULLET,1WITH DIAERESIS,0HYPHEN-MINUS",
    "0HYPHENATION POINT,0HYPODIASTOLE,0HYSTERESIS SYMBOL,0I LOVE YOU HAND SIGN",
    "0ICE CREAM,1CUBE,1HOCKEY STICK AND PUCK,1SKATE,0IDENTICAL TO",
    "2AND SLANTED PARALLEL,1WITH DOT ABOVE,0IDENTIFICATION CARD",
    "0IDEOGRAPHIC ANNOTATION BOTTOM MARK,2EARTH MARK,2FIRST MARK,2FOUR MARK",
    "2FOURTH MARK,2HEAVEN MARK,2LINKING MARK,2MAN MARK,2MIDDLE MARK,2ONE MARK",
    "2REVERSE MARK,2SECOND MARK,2THIRD MARK,2THREE MARK,2TOP MARK,2TWO MARK",
    "1CLOSING MARK,1COMMA,1DEPARTING TONE MARK",
    "1DESCRIPTION CHARACTER ABOVE TO BELOW,5MIDDLE AND BELOW,3FULL SURROUND",
    "3LEFT TO MIDDLE AND RIGHT,5RIGHT,3OVERLAID,3SURROUND FROM ABOVE,5BELOW",
    "5LEFT,5LOWER LEFT,5UPPER LEFT,6RIGHT,1ENTERING TONE MARK,1FULL STOP",
    "1HALF FILL SPACE,1ITERATION MARK,1LEVEL TONE MARK,1NUMBER ZERO",
    "1RISING TONE MARK,1SPACE,1TALLY MARK FIVE,3FOUR,3ONE,3THREE,3TWO",
    "1TELEGRAPH LINE FEED SEPARATOR SYMBOL,2SYMBOL FOR APRIL,4AUGUST",
    "4DAY EIGHT,5EIGHTEEN,5ELEVEN,5FIFTEEN,5FIVE,5FOUR,5FOURTEEN,5NINE",
    "5NINETEEN,5ONE,5SEVEN,5SEVENTEEN,5SIX,5SIXTEEN,5TEN,5THIRTEEN,5THIRTY",
    "5THIRTY-ONE,5THREE,5TWELVE,5TWENTY,5TWENTY-EIGHT,5TWENTY-FIVE",
    "5TWENTY-FOUR,5TWENTY-NINE,5TWENTY-ONE,5TWENTY-SEVEN,5TWENTY-SIX",
    "5TWENTY-THREE,5TWENTY-TWO,5TWO,4DECEMBER,4FEBRUARY,4HOUR EIGHT,5EIGHTEEN",
    "5ELEVEN,5FIFTEEN,5FIVE,5FOUR,5FOURTEEN,5NINE,5NINETEEN,5ONE,5SEVEN",
    "5SEVENTEEN,5SIX,5SIXTEEN,5TEN,5THIRTEEN,5THREE,5TWELVE,5TWENTY",
    "5TWENTY-FOUR,5TWENTY-ONE,5TWENTY-THREE,5TWENTY-TWO,5TWO,5ZERO,4JANUARY",
    "4JULY,4JUNE,4MARCH,4MAY,4NOVEMBER,4OCTOBER,4SEPTEMBER",
    "1VARIATION INDICATOR,0IMAGE OF,2OR APPROXIMATELY EQUAL TO,0IMP",
    "0IMPERIAL ARAMAIC LETTER ALEPH,3AYIN,3BETH,3DALETH,3GIMEL,3HE,3HETH,3KAPH",
    "3LAMEDH,3MEM,3NUN,3PE,3QOPH,3RESH,3SADHE,3SAMEKH,3SHIN,3TAW,3TETH,3WAW",
    "3YODH,3ZAYIN,2NUMBER ONE,4HUNDRED,4THOUSAND,3TEN,4THOUSAND,3THREE,3TWENTY",
    "3TWO,2SECTION SIGN,0INBOX TRAY,0INCOMING ENVELOPE,0INCOMPLETE INFINITY",
    "0INCREASE FONT SIZE SYMBOL,0INCREASES AS,0INCREMENT,0IND,0INDEX",
    "1POINTING AT THE VIEWER,0INDIAN RUPEE SIGN",
    "0INDIC SIYAQ ALTERNATE LAKH MARK,2FRACTION ONE HALF,4QUARTER",
    "3THREE QUARTERS,2LAKH MARK,2NUMBER ALTERNATE ONE,4TEN THOUSAND,4TWO",
    "3EIGHT,4HUNDRED,4THOUSAND,3EIGHTY,4THOUSAND,3FIFTY,4THOUSAND,3FIVE",
    "4HUNDRED,4THOUSAND,3FORTY,4THOUSAND,3FOUR,4HUNDRED,4THOUSAND,3KAROR",
    "3KARORAN,3LAKH,3LAKHAN,3NINE,4HUNDRED,4THOUSAND,3NINETY,4THOUSAND,3ONE",
    "4HUNDRED,4THOUSAND,3PREFIXED EIGHT,4FIVE,4FOUR,4NINE,4ONE,4SEVEN,4SIX",
    "4THREE,4TWO,3SEVEN,4HUNDRED,4THOUSAND,3SEVENTY,4THOUSAND,3SIX,4HUNDRED",
    "4THOUSAND,3SIXTY,4THOUSAND,3TEN,4THOUSAND,3THIRTY,4THOUSAND,3THREE",
    "4HUNDRED,4THOUSAND,3TWENTY,4THOUSAND,3TWO,4HUNDRED,4THOUSAND,2PLACEHOLDER",
    "2RUPEE MARK,0INFINITY,1NEGATED WITH VERTICAL BAR,0INFORMATION DESK PERSON",
    "1SEPARATOR FOUR,2ONE,2THREE,2TWO,1SOURCE,0INHIBIT ARABIC FORM SHAPING",
    "1SYMMETRIC SWAPPING,0INPUT SYMBOL FOR LATIN CAPITAL LETTERS,4LETTERS",
    "4SMALL LETTERS,3NUMBERS,3SYMBOLS,0INSCRIPTIONAL PAHLAVI LETTER ALEPH",
    "3BETH,3DALETH,3GIMEL,3HE,3HETH,3KAPH,3LAMEDH,3MEM-QOPH,3NUN,3PE,3SADHE",
    "3SAMEKH,3SHIN,3TAW,3TETH,3WAW-AYIN-RESH,3YODH,3ZAYIN,2NUMBER FOUR,3ONE",
    "4HUNDRED,4THOUSAND,3TEN,3THREE,3TWENTY,3TWO,1PARTHIAN LETTER ALEPH,3AYIN",
    "3BETH,3DALETH,3GIMEL,3HE,3HETH,3KAPH,3LAMEDH,3MEM,3NUN,3PE,3QOPH,3RESH",
    "3SADHE,3SAMEKH,3SHIN,3TAW,3TETH,3WAW,3YODH,3ZAYIN,2NUMBER FOUR,3ONE",
    "4HUNDRED,4THOUSAND,3TEN,3THREE,3TWENTY,3TWO,0INSERTION SYMBOL,0INTEGRAL",
    "1AROUND A POINT OPERATOR,1AVERAGE WITH SLASH,1EXTENSION",
    "1WITH DOUBLE STROKE,2INTERSECTION,2LEFTWARDS ARROW WITH HOOK,2OVERBAR",
    "2TIMES SIGN,2UNDERBAR,2UNION,0INTERCALATE,0INTERIOR PRODUCT",
    "0INTERLINEAR ANNOTATION ANCHOR,2SEPARATOR,2TERMINATOR",
    "0INTERLOCKED FEMALE AND MALE SIGN,0INTERROBANG,0INTERSECTION",
    "1ABOVE BAR ABOVE UNION,2UNION,1BESIDE AND JOINED WITH INTERSECTION",
    "1WITH DOT,2LOGICAL AND,2OVERBAR,0INVERSE BULLET,1CHECK MARK",
    "1CHECKER BOARD FILL,1DOWNWARDS ARROW WITH TIP LEFTWARDS,1MEDIUM SHADE",
    "1WHITE CIRCLE,0INVERTED EXCLAMATION MARK,1INTERROBANG,1LAZY S,1LOW KAVYKA",
    "3WITH KAVYKA ABOVE,1OHM SIGN,1PENTAGRAM,1QUESTION MARK,1UNDERTIE",
    "0INVISIBLE PLUS,1SEPARATOR,1TIMES,0IZAKAYA LANTERN,0JACK-O-LANTERN",
    "0JAPANESE BANK SYMBOL,1CASTLE,1DOLLS,1GOBLIN,1INDUSTRIAL STANDARD SYMBOL",
    "1OGRE,1POST OFFICE,1SYMBOL FOR BEGINNER,0JAR",
    "0JAVANESE CONSONANT SIGN CAKRA,3KERET,3PENGKAL,1DIGIT EIGHT,2FIVE,2FOUR",
    "2NINE,2ONE,2SEVEN,2SIX,2THREE,2TWO,2ZERO,1LEFT RERENGGAN,1LETTER A,2AI",
    "2BA,3MURDA,2CA,3MURDA,2DA,3MAHAPRANA,2DDA,3MAHAPRANA,2E,2GA,3MURDA,2HA,2I",
    "3KAWI,2II,2JA,3MAHAPRANA,2KA,3MURDA,3SASAK,2LA,2MA,2NA,3MURDA,2NGA,3LELET",
    "4RASWADI,2NYA,3MURDA,2O,2PA,3CEREK,3MURDA,2RA,3AGUNG,2SA,3MAHAPRANA",
    "3MURDA,2TA,3MURDA,2TTA,3MAHAPRANA,2U,2WA,2YA,1PADA ADEG,3ADEG,2ANDAP",
    "2ISEN-ISEN,2LINGSA,2LUHUR,2LUNGSI,2MADYA,2PANGKAT,2PISELEH,2TIRTA TUMETES",
    "2WINDU,1PANGKON,1PANGRANGKEP,1RIGHT RERENGGAN,1SIGN CECAK,3TELU,2LAYAR",
    "2PANYANGGA,2WIGNYAN,1TURNED PADA PISELEH,1VOWEL SIGN DIRGA MURE,3PEPET",
    "3SUKU,4MENDUT,3TALING,3TARUNG,3TOLONG,3WULU,4MELIK,0JEANS",
    "0JIGSAW PUZZLE PIECE,0JOIN,0JOYSTICK,0JUGGLING,0JUNO,0JUPITER,0KAABA",
    "0KAITHI ABBREVIATION SIGN,1DANDA,1DOUBLE DANDA,2SECTION MARK",
    "1ENUMERATION SIGN,1LETTER A,2AA,2AI,2AU,2BA,2BHA,2CA,2CHA,2DA,2DDA,2DDDHA",
    "2DDHA,2DHA,2E,2GA,2GHA,2HA,2I,2II,2JA,2JHA,2KA,2KHA,2LA,2MA,2NA,2NGA,2NNA",
    "2NYA,2O,2PA,2PHA,2RA,2RHA,2SA,2SHA,2SSA,2TA,2THA,2TTA,2TTHA,2U,2UU,2VA",
    "2YA,1NUMBER SIGN,3ABOVE,1SECTION MARK,1SIGN ANUSVARA,2CANDRABINDU,2NUKTA",
    "2VIRAMA,2VISARGA,1VOWEL SIGN AA,3AI,3AU,3E,3I,3II,3O,3U,3UU,3VOCALIC R",
    "0KANGAROO,0KANGXI RADICAL AGAIN,2AND,2ARRIVE,2ARROW,2AXE,2BADGER,2BAMBOO",
    "2BEAN,2BIG,2BIRD,2BITTER,2BLACK,2BLOOD,2BLUE,2BOAT,2BODY,2BOLT OF CLOTH",
    "2BONE,2BOW,2BRANCH,2BRISTLE,2BRUSH,2CART,2CAULDRON,2CAVE,2CHILD,2CITY",
    "2CLAN,2CLAW,2CLIFF,2CLOTHES,2COLOR,2COMPARE,2CORPSE,2COVER,2COW,2DEATH",
    "2DEER,2DIPPER,2DISH,2DISTINGUISH,2DIVINATION,2DO NOT,2DOG,2DOOR,2DOT",
    "2DOTTED CLIFF,3TENT,2DOUBLE X,2DOWN BOX,2DRAGON,2DRUM,2DRY,2EAR,2EARTH",
    "2EAT,2EIGHT,2EMBROIDERY,2ENCLOSURE,2ENTER,2EVEN,2EVENING,2EYE,2FACE,2FANG",
    "2FATHER,2FEATHER,2FIELD,2FIGHT,2FIRE,2FISH,2FLUTE,2FLY,2FOOT,2FRAGRANT",
    "2FROG,2FUR,2GATE,2GHOST,2GO,3SLOWLY,2GOLD,2GRAIN,2GRASS,2HAIR,2HALBERD",
    "2HALF TREE TRUNK,2HAND,2HEAD,2HEART,2HEMP,2HIDING ENCLOSURE,2HOOK,2HORN",
    "2HORSE,2ICE,2INCH,2INSECT,2JADE,2JAR,2KNIFE,2LACK,2LAME,2LEAF,2LEATHER",
    "2LEEK,2LEGS,2LID,2LIFE,2LINE,2LONG,3STRIDE,2MAN,2MEAT,2MELON,2MILLET",
    "2MINISTER,2MOON,2MORNING,2MORTAR,2MOUND,2MOUNTAIN,2MOUTH,2NET,2NOSE,2NOT",
    "2OLD,2ONE,2ONESELF,2OPEN BOX,2OPPOSE,2PIG,2PLOW,2POWER,2PRIVATE,2PROFOUND",
    "2RAIN,2RAP,2RAT,2RED,2RICE,2RIGHT OPEN BOX,2RIVER,2ROOF,2RUN",
    "2SACRIFICIAL WINE,2SALT,2SAY,2SCHOLAR,2SCRIPT,2SEAL,2SECOND,2SEE,2SELF",
    "2SHEEP,2SHELL,2SHOOT,2SHORT TAILED BIRD,3THREAD,2SICKNESS,2SILK,2SKIN",
    "2SLASH,2SLAVE,2SLICE,2SMALL,2SNOUT,2SOUND,2SPEAR,2SPEECH,2SPIRIT,2SPOON",
    "2SPROUT,2SQUARE,2STAND,2STEAM,2STEP,2STONE,2STOP,2STOPPING,2SUN,2SWEET",
    "2TABLE,2TALL,2TANNED LEATHER,2TEN,2TIGER,2TILE,2TONGUE,2TOOTH,2TRACK",
    "2TREE,2TRIPOD,2TURBAN,2TURTLE,2TWO,3HANDS,2USE,2VALLEY,2VILLAGE,2WALK",
    "3ENCLOSURE,2WATER,2WEAPON,2WEST,2WHEAT,2WHITE,2WIND,2WINE,2WOMAN,2WORK",
    "2WRAP,2WRONG,2YELLOW,0KANNADA AI LENGTH MARK,1DIGIT EIGHT,2FIVE,2FOUR",
    "2NINE,2ONE,2SEVEN,2SIX,2THREE,2TWO,2ZERO,1LENGTH MARK,1LETTER A,2AA,2AI",
    "2AU,2BA,2BHA,2CA,2CHA,2DA,2DDA,2DDHA,2DHA,2E,2EE,2FA,2GA,2GHA,2HA,2I,2II",
    "2JA,2JHA,2KA,2KHA,2LA,2LLA,2LLLA,2MA,2NA,2NAKAARA POLLU,2NGA,2NNA,2NYA,2O",
    "2OO,2PA,2PHA,2RA,2RRA,2SA,2SHA,2SSA,2TA,2THA,2TTA,2TTHA,2U,2UU,2VA",
    "2VOCALIC L,3LL,3R,3RR,2YA,1SIGN ANUSVARA,2AVAGRAHA,2CANDRABINDU",
    "2JIHVAMULIYA,2NUKTA,2SIDDHAM,2SPACING CANDRABINDU,2UPADHMANIYA,2VIRAMA",
    "2VISARGA,1VOWEL SIGN AA,3AI,3AU,3E,3EE,3I,3II,3O,3OO,3U,3UU,3VOCALIC L",
    "4LL,4R,4RR,0KATAKANA DIGRAPH KOTO,1ITERATION MARK,1LETTER A,2ARCHAIC E",
    "3WU,3YE,3YI,2BA,2BE,2BI,2BO,2BU,2DA,2DE,2DI,2DO,2DU,2E,2GA,2GE,2GI,2GO",
    "2GU,2HA,2HE,2HI,2HO,2HU,2I,2KA,2KE,2KI,2KO,2KU,2MA,2ME,2MI",
    "2MINNAN NASALIZED TONE-1,4TONE-2,4TONE-3,4TONE-4,4TONE-5,4TONE-7,4TONE-8",
    "3TONE-2,3TONE-3,3TONE-4,3TONE-5,3TONE-7,3TONE-8,2MO,2MU,2N,2NA,2NE,2NI",
    "2NO,2NU,2O,2PA,2PE,2PI,2PO,2PU,2RA,2RE,2RI,2RO,2RU,2SA,2SE,2SI,2SMALL A",
    "3E,3HA,3HE,3HI,3HO,3HU,3I,3KA,3KE,3KU,3MU,3N,3NU,3O,3RA,3RE,3RI,3RO,3RU",
    "3SI,3SU,3TO,3TU,3U,3WA,3WE,3WI,3WO,3YA,3YO,3YU,2SO,2SU,2TA,2TE,2TI,2TO",
    "2TU,2U,2VA,2VE,2VI,2VO,2VU,2WA,2WE,2WI,2WO,2YA,2YO,2YU,2ZA,2ZE,2ZI,2ZO",
    "2ZU,1MIDDLE DOT,1VOICED ITERATION MARK,0KATAKANA-HIRAGANA DOUBLE HYPHEN",
    "1PROLONGED SOUND MARK,1SEMI-VOICED SOUND MARK,1VOICED SOUND MARK",
    "0KAYAH LI DIGIT EIGHT,3FIVE,3FOUR,3NINE,3ONE,3SEVEN,3SIX,3THREE,3TWO",
    "3ZERO,2LETTER A,3BA,3CA,3DA,3GA,3HA,3HTA,3I,3KA,3KHA,3LA,3MA,3NA,3NGA",
    "3NYA,3OE,3OO,3PA,3PHA,3RA,3SA,3SHA,3TA,3THA,3VA,3WA,3YA,3ZA,2SIGN CWI",
    "3SHYA,2TONE CALYA,4PLOPHU,3PLOPHU,2VOWEL E,3EE,3O,3U,3UE,0KELVIN SIGN",
    "0KEY,0KEYBOARD,1AND MOUSE,0KEYCAP TEN,0KHAROSHTHI DIGIT FOUR,2ONE,2THREE",
    "2TWO,1FRACTION ONE HALF,1LETTER A,2BA,2BHA,2CA,2CHA,2DA,2DDA,2DDHA,2DHA",
    "2GA,2GHA,2HA,2JA,2KA,2KHA,2KKA,2LA,2MA,2NA,2NNA,2NYA,2PA,2PHA,2RA,2SA",
    "2SHA,2SSA,2TA,2THA,2TTA,2TTHA,2TTTA,2TTTHA,2VA,2VHA,2YA,2ZA",
    "1NUMBER ONE HUNDRED,3THOUSAND,2TEN,2TWENTY,1PUNCTUATION CIRCLE",
    "2CRESCENT BAR,2DANDA,2DOT,2DOUBLE DANDA,2LINES,2LOTUS,2MANGALAM",
    "2SMALL CIRCLE,1SIGN ANUSVARA,2BAR ABOVE,2CAUDA,2DOT BELOW",
    "2DOUBLE RING BELOW,2VISARGA,1VIRAMA,1VOWEL LENGTH MARK,2SIGN E,3I,3O,3U",
    "3VOCALIC R,0KHITAN SMALL SCRIPT FILLER,0KHMER CURRENCY SYMBOL RIEL",
    "1DIGIT EIGHT,2FIVE,2FOUR,2NINE,2ONE,2SEVEN,2SIX,2THREE,2TWO,2ZERO",
    "1INDEPENDENT VOWEL LY,3LYY,3QAA,3QAI,3QAQ,3QAU,3QE,3QI,3QII,3QOO TYPE ONE",
    "5TWO,3QU,3QUK,3QUU,3QUUV,3RY,3RYY,1LETTER BA,2CA,2CHA,2CHO,2CO,2DA,2DO",
    "2HA,2KA,2KHA,2KHO,2KO,2LA,2LO,2MO,2NGO,2NNO,2NO,2NYO,2PHA,2PHO,2PO,2QA",
    "2RO,2SA,2SHA,2SSO,2TA,2THA,2THO,2TO,2TTHA,2TTHO,2VO,2YO,1SIGN AHSDA",
    "2ATTHACAN,2AVAKRAHASANYA,2BANTOC,2BARIYOOSAN,2BATHAMASAT,2BEYYAL",
    "2CAMNUC PII KUUH,2COENG,2KAKABAT,2KHAN,2KOOMUUT,2LEK TOO,2MUUSIKATOAN",
    "2NIKAHIT,2PHNAEK MUAN,2REAHMUK,2ROBAT,2SAMYOK SANNYA,2TOANDAKHIAT",
    "2TRIISAP,2VIRIAM,2YUUKALEAPINTU,1SYMBOL BEI KOET,3ROC,2BUON KOET,3ROC",
    "2DAP KOET,3ROC,2DAP-BEI KOET,3ROC,2DAP-BUON KOET,3ROC,2DAP-MUOY KOET,3ROC",
    "2DAP-PII KOET,3ROC,2DAP-PRAM KOET,3ROC,2LEK ATTAK BEI,4BUON,4MUOY,4PII",
    "4PRAM,4PRAM-BEI,4PRAM-BUON,4PRAM-MUOY,4PRAM-PII,4SON,2MUOY KOET,3ROC",
    "2PATHAMASAT,2PII KOET,3ROC,2PRAM KOET,3ROC,2PRAM-BEI KOET,3ROC",
    "2PRAM-BUON KOET,3ROC,2PRAM-MUOY KOET,3ROC,2PRAM-PII KOET,3ROC,2TUTEYASAT",
    "1VOWEL INHERENT AA,3AQ,2SIGN AA,3AE,3AI,3AU,3E,3I,3IE,3II,3OE,3OO,3U,3UA",
    "3UU,3Y,3YA,3YY,0KHOJKI ABBREVIATION SIGN,1DANDA,1DOUBLE DANDA",
    "2SECTION MARK,1LETTER A,2AA,2AI,2AU,2BA,2BBA,2BHA,2CA,2CHA,2DA,2DDA,2DDDA",
    "2DDHA,2DHA,2E,2GA,2GGA,2GHA,2HA,2I,2JA,2JJA,2KA,2KHA,2LA,2LLA,2MA,2NA",
    "2NGA,2NNA,2NYA,2O,2PA,2PHA,2RA,2SA,2TA,2THA,2TTA,2TTHA,2U,2VA,2YA",
    "1SECTION MARK,1SIGN ANUSVARA,2NUKTA,2SHADDA,2SUKUN,2VIRAMA,1VOWEL SIGN AA",
    "3AI,3AU,3E,3I,3II,3O,3U,1WORD SEPARATOR,0KHUDAWADI DIGIT EIGHT,2FIVE",
    "2FOUR,2NINE,2ONE,2SEVEN,2SIX,2THREE,2TWO,2ZERO,1LETTER A,2AA,2AI,2AU,2BA",
    "2BBA,2BHA,2CA,2CHA,2DA,2DDA,2DDDA,2DDHA,2DHA,2E,2GA,2GGA,2GHA,2HA,2I,2II",
    "2JA,2JHA,2JJA,2KA,2KHA,2LA,2MA,2NA,2NGA,2NNA,2NYA,2O,2PA,2PHA,2RA,2RRA",
    "2SA,2SHA,2TA,2THA,2TTA,2TTHA,2U,2UU,2VA,2YA,1SIGN ANUSVARA,2NUKTA,2VIRAMA",
    "1VOWEL SIGN AA,3AI,3AU,3E,3I,3II,3O,3U,3UU,0KIMONO,0KIP SIGN,0KISS,1MARK",
    "0KISSING CAT FACE WITH CLOSED EYES,1FACE,2WITH CLOSED EYES,3SMILING EYES",
    "0KITE,0KIWIFRUIT,0KNEELING PERSON,0KNOT,0KOALA,0KOREAN STANDARD SYMBOL",
    "0KRONOS"]

end CallChains.Text.CharacterName
