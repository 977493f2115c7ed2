import JsonPatch.Text.Name.Run

/-! # Character names from U+A000 on -/

namespace JsonPatch.Text.Name

/-- The names of the characters from U+A000 to U+FB4F that have one of their own. -/
def fromA000 : List Run := [
  ⟨0xa000, [
    "0YI SYLLABLE IT|2IX|2I|2IP|2IET|2IEX|2IE|2IEP|2AT|2AX|2A|2AP|2UOX|2UO|2UOP|2OT|2OX|2O|2OP",
    "2EX|2E|2WU|2BIT|2BIX|2BI|2BIP|2BIET|2BIEX|2BIE|2BIEP|2BAT|2BAX|2BA|2BAP|2BUOX|2BUO|2BUOP",
    "2BOT|2BOX|2BO|2BOP|2BEX|2BE|2BEP|2BUT|2BUX|2BU|2BUP|2BURX|2BUR|2BYT|2BYX|2BY|2BYP|2BYRX|2BYR",
    "2PIT|2PIX|2PI|2PIP|2PIEX|2PIE|2PIEP|2PAT|2PAX|2PA|2PAP|2PUOX|2PUO|2PUOP|2POT|2POX|2PO|2POP",
    "2PUT|2PUX|2PU|2PUP|2PURX|2PUR|2PYT|2PYX|2PY|2PYP|2PYRX|2PYR|2BBIT|2BBIX|2BBI|2BBIP|2BBIET",
    "2BBIEX|2BBIE|2BBIEP|2BBAT|2BBAX|2BBA|2BBAP|2BBUOX|2BBUO|2BBUOP|2BBOT|2BBOX|2BBO|2BBOP|2BBEX",
    "2BBE|2BBEP|2BBUT|2BBUX|2BBU|2BBUP|2BBURX|2BBUR|2BBYT|2BBYX|2BBY|2BBYP|2NBIT|2NBIX|2NBI|2NBIP",
    "2NBIEX|2NBIE|2NBIEP|2NBAT|2NBAX|2NBA|2NBAP|2NBOT|2NBOX|2NBO|2NBOP|2NBUT|2NBUX|2NBU|2NBUP",
    "2NBURX|2NBUR|2NBYT|2NBYX|2NBY|2NBYP|2NBYRX|2NBYR|2HMIT|2HMIX|2HMI|2HMIP|2HMIEX|2HMIE|2HMIEP",
    "2HMAT|2HMAX|2HMA|2HMAP|2HMUOX|2HMUO|2HMUOP|2HMOT|2HMOX|2HMO|2HMOP|2HMUT|2HMUX|2HMU|2HMUP",
    "2HMURX|2HMUR|2HMYX|2HMY|2HMYP|2HMYRX|2HMYR|2MIT|2MIX|2MI|2MIP|2MIEX|2MIE|2MIEP|2MAT|2MAX|2MA",
    "2MAP|2MUOT|2MUOX|2MUO|2MUOP|2MOT|2MOX|2MO|2MOP|2MEX|2ME|2MUT|2MUX|2MU|2MUP|2MURX|2MUR|2MYT",
    "2MYX|2MY|2MYP|2FIT|2FIX|2FI|2FIP|2FAT|2FAX|2FA|2FAP|2FOX|2FO|2FOP|2FUT|2FUX|2FU|2FUP|2FURX",
    "2FUR|2FYT|2FYX|2FY|2FYP|2VIT|2VIX|2VI|2VIP|2VIET|2VIEX|2VIE|2VIEP|2VAT|2VAX|2VA|2VAP|2VOT",
    "2VOX|2VO|2VOP|2VEX|2VEP|2VUT|2VUX|2VU|2VUP|2VURX|2VUR|2VYT|2VYX|2VY|2VYP|2VYRX|2VYR|2DIT",
    "2DIX|2DI|2DIP|2DIEX|2DIE|2DIEP|2DAT|2DAX|2DA|2DAP|2DUOX|2DUO|2DOT|2DOX|2DO|2DOP|2DEX|2DE",
    "2DEP|2DUT|2DUX|2DU|2DUP|2DURX|2DUR|2TIT|2TIX|2TI|2TIP|2TIEX|2TIE|2TIEP|2TAT|2TAX|2TA|2TAP",
    "2TUOT|2TUOX|2TUO|2TUOP|2TOT|2TOX|2TO|2TOP|2TEX|2TE|2TEP|2TUT|2TUX|2TU|2TUP|2TURX|2TUR|2DDIT",
    "2DDIX|2DDI|2DDIP|2DDIEX|2DDIE|2DDIEP|2DDAT|2DDAX|2DDA|2DDAP|2DDUOX|2DDUO|2DDUOP|2DDOT|2DDOX",
    "2DDO|2DDOP|2DDEX|2DDE|2DDEP|2DDUT|2DDUX|2DDU|2DDUP|2DDURX|2DDUR|2NDIT|2NDIX|2NDI|2NDIP",
    "2NDIEX|2NDIE|2NDAT|2NDAX|2NDA|2NDAP|2NDOT|2NDOX|2NDO|2NDOP|2NDEX|2NDE|2NDEP|2NDUT|2NDUX|2NDU",
    "2NDUP|2NDURX|2NDUR|2HNIT|2HNIX|2HNI|2HNIP|2HNIET|2HNIEX|2HNIE|2HNIEP|2HNAT|2HNAX|2HNA|2HNAP",
    "2HNUOX|2HNUO|2HNOT|2HNOX|2HNOP|2HNEX|2HNE|2HNEP|2HNUT|2NIT|2NIX|2NI|2NIP|2NIEX|2NIE|2NIEP",
    "2NAX|2NA|2NAP|2NUOX|2NUO|2NUOP|2NOT|2NOX|2NO|2NOP|2NEX|2NE|2NEP|2NUT|2NUX|2NU|2NUP|2NURX",
    "2NUR|2HLIT|2HLIX|2HLI|2HLIP|2HLIEX|2HLIE|2HLIEP|2HLAT|2HLAX|2HLA|2HLAP|2HLUOX|2HLUO|2HLUOP",
    "2HLOX|2HLO|2HLOP|2HLEX|2HLE|2HLEP|2HLUT|2HLUX|2HLU|2HLUP|2HLURX|2HLUR|2HLYT|2HLYX|2HLY|2HLYP",
    "2HLYRX|2HLYR|2LIT|2LIX|2LI|2LIP|2LIET|2LIEX|2LIE|2LIEP|2LAT|2LAX|2LA|2LAP|2LUOT|2LUOX|2LUO",
    "2LUOP|2LOT|2LOX|2LO|2LOP|2LEX|2LE|2LEP|2LUT|2LUX|2LU|2LUP|2LURX|2LUR|2LYT|2LYX|2LY|2LYP",
    "2LYRX|2LYR|2GIT|2GIX|2GI|2GIP|2GIET|2GIEX|2GIE|2GIEP|2GAT|2GAX|2GA|2GAP|2GUOT|2GUOX|2GUO",
    "2GUOP|2GOT|2GOX|2GO|2GOP|2GET|2GEX|2GE|2GEP|2GUT|2GUX|2GU|2GUP|2GURX|2GUR|2KIT|2KIX|2KI|2KIP",
    "2KIEX|2KIE|2KIEP|2KAT|2KAX|2KA|2KAP|2KUOX|2KUO|2KUOP|2KOT|2KOX|2KO|2KOP|2KET|2KEX|2KE|2KEP",
    "2KUT|2KUX|2KU|2KUP|2KURX|2KUR|2GGIT|2GGIX|2GGI|2GGIEX|2GGIE|2GGIEP|2GGAT|2GGAX|2GGA|2GGAP",
    "2GGUOT|2GGUOX|2GGUO|2GGUOP|2GGOT|2GGOX|2GGO|2GGOP|2GGET|2GGEX|2GGE|2GGEP|2GGUT|2GGUX|2GGU",
    "2GGUP|2GGURX|2GGUR|2MGIEX|2MGIE|2MGAT|2MGAX|2MGA|2MGAP|2MGUOX|2MGUO|2MGUOP|2MGOT|2MGOX|2MGO",
    "2MGOP|2MGEX|2MGE|2MGEP|2MGUT|2MGUX|2MGU|2MGUP|2MGURX|2MGUR|2HXIT|2HXIX|2HXI|2HXIP|2HXIET",
    "2HXIEX|2HXIE|2HXIEP|2HXAT|2HXAX|2HXA|2HXAP|2HXUOT|2HXUOX|2HXUO|2HXUOP|2HXOT|2HXOX|2HXO|2HXOP",
    "2HXEX|2HXE|2HXEP|2NGIEX|2NGIE|2NGIEP|2NGAT|2NGAX|2NGA|2NGAP|2NGUOT|2NGUOX|2NGUO|2NGOT|2NGOX",
    "2NGO|2NGOP|2NGEX|2NGE|2NGEP|2HIT|2HIEX|2HIE|2HAT|2HAX|2HA|2HAP|2HUOT|2HUOX|2HUO|2HUOP|2HOT",
    "2HOX|2HO|2HOP|2HEX|2HE|2HEP|2WAT|2WAX|2WA|2WAP|2WUOX|2WUO|2WUOP|2WOX|2WO|2WOP|2WEX|2WE|2WEP",
    "2ZIT|2ZIX|2ZI|2ZIP|2ZIEX|2ZIE|2ZIEP|2ZAT|2ZAX|2ZA|2ZAP|2ZUOX|2ZUO|2ZUOP|2ZOT|2ZOX|2ZO|2ZOP",
    "2ZEX|2ZE|2ZEP|2ZUT|2ZUX|2ZU|2ZUP|2ZURX|2ZUR|2ZYT|2ZYX|2ZY|2ZYP|2ZYRX|2ZYR|2CIT|2CIX|2CI|2CIP",
    "2CIET|2CIEX|2CIE|2CIEP|2CAT|2CAX|2CA|2CAP|2CUOX|2CUO|2CUOP|2COT|2COX|2CO|2COP|2CEX|2CE|2CEP",
    "2CUT|2CUX|2CU|2CUP|2CURX|2CUR|2CYT|2CYX|2CY|2CYP|2CYRX|2CYR|2ZZIT|2ZZIX|2ZZI|2ZZIP|2ZZIET",
    "2ZZIEX|2ZZIE|2ZZIEP|2ZZAT|2ZZAX|2ZZA|2ZZAP|2ZZOX|2ZZO|2ZZOP|2ZZEX|2ZZE|2ZZEP|2ZZUX|2ZZU",
    "2ZZUP|2ZZURX|2ZZUR|2ZZYT|2ZZYX|2ZZY|2ZZYP|2ZZYRX|2ZZYR|2NZIT|2NZIX|2NZI|2NZIP|2NZIEX|2NZIE",
    "2NZIEP|2NZAT|2NZAX|2NZA|2NZAP|2NZUOX|2NZUO|2NZOX|2NZOP|2NZEX|2NZE|2NZUX|2NZU|2NZUP|2NZURX",
    "2NZUR|2NZYT|2NZYX|2NZY|2NZYP|2NZYRX|2NZYR|2SIT|2SIX|2SI|2SIP|2SIEX|2SIE|2SIEP|2SAT|2SAX|2SA",
    "2SAP|2SUOX|2SUO|2SUOP|2SOT|2SOX|2SO|2SOP|2SEX|2SE|2SEP|2SUT|2SUX|2SU|2SUP|2SURX|2SUR|2SYT",
    "2SYX|2SY|2SYP|2SYRX|2SYR|2SSIT|2SSIX|2SSI|2SSIP|2SSIEX|2SSIE|2SSIEP|2SSAT|2SSAX|2SSA|2SSAP",
    "2SSOT|2SSOX|2SSO|2SSOP|2SSEX|2SSE|2SSEP|2SSUT|2SSUX|2SSU|2SSUP|2SSYT|2SSYX|2SSY|2SSYP|2SSYRX",
    "2SSYR|2ZHAT|2ZHAX|2ZHA|2ZHAP|2ZHUOX|2ZHUO|2ZHUOP|2ZHOT|2ZHOX|2ZHO|2ZHOP|2ZHET|2ZHEX|2ZHE",
    "2ZHEP|2ZHUT|2ZHUX|2ZHU|2ZHUP|2ZHURX|2ZHUR|2ZHYT|2ZHYX|2ZHY|2ZHYP|2ZHYRX|2ZHYR|2CHAT|2CHAX",
    "2CHA|2CHAP|2CHUOT|2CHUOX|2CHUO|2CHUOP|2CHOT|2CHOX|2CHO|2CHOP|2CHET|2CHEX|2CHE|2CHEP|2CHUX",
    "2CHU|2CHUP|2CHURX|2CHUR|2CHYT|2CHYX|2CHY|2CHYP|2CHYRX|2CHYR|2RRAX|2RRA|2RRUOX|2RRUO|2RROT",
    "2RROX|2RRO|2RROP|2RRET|2RREX|2RRE|2RREP|2RRUT|2RRUX|2RRU|2RRUP|2RRURX|2RRUR|2RRYT|2RRYX|2RRY",
    "2RRYP|2RRYRX|2RRYR|2NRAT|2NRAX|2NRA|2NRAP|2NROX|2NRO|2NROP|2NRET|2NREX|2NRE|2NREP|2NRUT",
    "2NRUX|2NRU|2NRUP|2NRURX|2NRUR|2NRYT|2NRYX|2NRY|2NRYP|2NRYRX|2NRYR|2SHAT|2SHAX|2SHA|2SHAP",
    "2SHUOX|2SHUO|2SHUOP|2SHOT|2SHOX|2SHO|2SHOP|2SHET|2SHEX|2SHE|2SHEP|2SHUT|2SHUX|2SHU|2SHUP",
    "2SHURX|2SHUR|2SHYT|2SHYX|2SHY|2SHYP|2SHYRX|2SHYR|2RAT|2RAX|2RA|2RAP|2RUOX|2RUO|2RUOP|2ROT",
    "2ROX|2RO|2ROP|2REX|2RE|2REP|2RUT|2RUX|2RU|2RUP|2RURX|2RUR|2RYT|2RYX|2RY|2RYP|2RYRX|2RYR|2JIT",
    "2JIX|2JI|2JIP|2JIET|2JIEX|2JIE|2JIEP|2JUOT|2JUOX|2JUO|2JUOP|2JOT|2JOX|2JO|2JOP|2JUT|2JUX|2JU",
    "2JUP|2JURX|2JUR|2JYT|2JYX|2JY|2JYP|2JYRX|2JYR|2QIT|2QIX|2QI|2QIP|2QIET|2QIEX|2QIE|2QIEP",
    "2QUOT|2QUOX|2QUO|2QUOP|2QOT|2QOX|2QO|2QOP|2QUT|2QUX|2QU|2QUP|2QURX|2QUR|2QYT|2QYX|2QY|2QYP",
    "2QYRX|2QYR|2JJIT|2JJIX|2JJI|2JJIP|2JJIET|2JJIEX|2JJIE|2JJIEP|2JJUOX|2JJUO|2JJUOP|2JJOT|2JJOX",
    "2JJO|2JJOP|2JJUT|2JJUX|2JJU|2JJUP|2JJURX|2JJUR|2JJYT|2JJYX|2JJY|2JJYP|2NJIT|2NJIX|2NJI|2NJIP",
    "2NJIET|2NJIEX|2NJIE|2NJIEP|2NJUOX|2NJUO|2NJOT|2NJOX|2NJO|2NJOP|2NJUX|2NJU|2NJUP|2NJURX|2NJUR",
    "2NJYT|2NJYX|2NJY|2NJYP|2NJYRX|2NJYR|2NYIT|2NYIX|2NYI|2NYIP|2NYIET|2NYIEX|2NYIE|2NYIEP|2NYUOX",
    "2NYUO|2NYUOP|2NYOT|2NYOX|2NYO|2NYOP|2NYUT|2NYUX|2NYU|2NYUP|2XIT|2XIX|2XI|2XIP|2XIET|2XIEX",
    "2XIE|2XIEP|2XUOX|2XUO|2XOT|2XOX|2XO|2XOP|2XYT|2XYX|2XY|2XYP|2XYRX|2XYR|2YIT|2YIX|2YI|2YIP",
    "2YIET|2YIEX|2YIE|2YIEP|2YUOT|2YUOX|2YUO|2YUOP|2YOT|2YOX|2YO|2YOP|2YUT|2YUX|2YU|2YUP|2YURX",
    "2YUR|2YYT|2YYX|2YY|2YYP|2YYRX|2YYR||||1RADICAL QOT|2LI|2KIT|2NYIP|2CYP|2SSI|2GGOP|2GEP|2MI",
    "2HXIT|2LYR|2BBUT|2MOP|2YO|2PUT|2HXUO|2TAT|2GA|2ZUP|2CYT|2DDUR|2BUR|2GGUO|2NYOP|2TU|2OP|2JJUT",
    "2ZOT|2PYT|2HMO|2YIT|2VUR|2SHY|2VEP|2ZA|2JO|2NZUP|2JJY|2GOT|2JJIE|2WO|2DU|2SHUR|2LIE|2CY",
    "2CUOP|2CIP|2HXOP|2SHAT|2ZUR|2SHOP|2CHE|2ZZIET|2NBIE|2KE||||||||||0LISU LETTER BA|2PA|2PHA",
    "2DA|2TA|2THA|2GA|2KA|2KHA|2JA|2CA|2CHA|2DZA|2TSA|2TSHA|2MA|2NA|2LA|2SA|2ZHA|2ZA|2NGA|2HA|2XA",
    "2HHA|2FA|2WA|2SHA|2YA|2GHA|2A|2AE|2E|2EU|2I|2O|2U|2UE|2UH|2OE|2TONE MYA TI|3NA PO|3MYA CYA",
    "4BO|4NA|4JEU|1PUNCTUATION COMMA|2FULL STOP|0VAI SYLLABLE EE|2EEN|2HEE|2WEE|2WEEN|2PEE|2BHEE",
    "2BEE|2MBEE|2KPEE|2MGBEE|2GBEE|2FEE|2VEE|2TEE|2THEE|2DHEE|2DHHEE|2LEE|2REE|2DEE|2NDEE|2SEE",
    "2SHEE|2ZEE|2ZHEE|2CEE|2JEE|2NJEE|2YEE|2KEE|2NGGEE|2GEE|2MEE|2NEE|2NYEE|2I|2IN|2HI|2HIN|2WI",
    "2WIN|2PI|2BHI|2BI|2MBI|2KPI|2MGBI|2GBI|2FI|2VI|2TI|2THI|2DHI|2DHHI|2LI|2RI|2DI|2NDI|2SI|2SHI",
    "2ZI|2ZHI|2CI|2JI|2NJI|2YI|2KI|2NGGI|2GI|2MI|2NI|2NYI|2A|2AN|2NGAN|2HA|2HAN|2WA|2WAN|2PA|2BHA",
    "2BA|2MBA|2KPA|2KPAN|2MGBA|2GBA|2FA|2VA|2TA|2THA|2DHA|2DHHA|2LA|2RA|2DA|2NDA|2SA|2SHA|2ZA",
    "2ZHA|2CA|2JA|2NJA|2YA|2KA|2KAN|2NGGA|2GA|2MA|2NA|2NYA|2OO|2OON|2HOO|2WOO|2WOON|2POO|2BHOO",
    "2BOO|2MBOO|2KPOO|2MGBOO|2GBOO|2FOO|2VOO|2TOO|2THOO|2DHOO|2DHHOO|2LOO|2ROO|2DOO|2NDOO|2SOO",
    "2SHOO|2ZOO|2ZHOO|2COO|2JOO|2NJOO|2YOO|2KOO|2NGGOO|2GOO|2MOO|2NOO|2NYOO|2U|2UN|2HU|2HUN|2WU",
    "2WUN|2PU|2BHU|2BU|2MBU|2KPU|2MGBU|2GBU|2FU|2VU|2TU|2THU|2DHU|2DHHU|2LU|2RU|2DU|2NDU|2SU|2SHU",
    "2ZU|2ZHU|2CU|2JU|2NJU|2YU|2KU|2NGGU|2GU|2MU|2NU|2NYU|2O|2ON|2NGON|2HO|2HON|2WO|2WON|2PO|2BHO",
    "2BO|2MBO|2KPO|2MGBO|2GBO|2GBON|2FO|2VO|2TO|2THO|2DHO|2DHHO|2LO|2RO|2DO|2NDO|2SO|2SHO|2ZO",
    "2ZHO|2CO|2JO|2NJO|2YO|2KO|2NGGO|2GO|2MO|2NO|2NYO|2E|2EN|2NGEN|2HE|2HEN|2WE|2WEN|2PE|2BHE|2BE",
    "2MBE|2KPE|2KPEN|2MGBE|2GBE|2GBEN|2FE|2VE|2TE|2THE|2DHE|2DHHE|2LE|2RE|2DE|2NDE|2SE|2SHE|2ZE",
    "2ZHE|2CE|2JE|2NJE|2YE|2KE|2NGGE|2NGGEN|2GE|2GEN|2ME|2NE|2NYE|2NG|2LENGTHENER|1COMMA",
    "1FULL STOP|1QUESTION MARK|1SYLLABLE NDOLE FA|3KA|3SOO|1SYMBOL FEENG|2KEENG|2TING|2NII|2BANG",
    "2FAA|2TAA|2DANG|2DOONG|2KUNG|2TONG|2DO-O|2JONG|1DIGIT ZERO|2ONE|2TWO|2THREE|2FOUR|2FIVE|2SIX",
    "2SEVEN|2EIGHT|2NINE|1SYLLABLE NDOLE MA|3DO"]⟩,
  ⟨0xa640, [
    "0CYRILLIC CAPITAL LETTER ZEMLYA|1SMALL LETTER ZEMLYA|1CAPITAL LETTER DZELO",
    "1SMALL LETTER DZELO|1CAPITAL LETTER REVERSED DZE|1SMALL LETTER REVERSED DZE",
    "1CAPITAL LETTER IOTA|1SMALL LETTER IOTA|1CAPITAL LETTER DJERV|1SMALL LETTER DJERV",
    "1CAPITAL LETTER MONOGRAPH UK|1SMALL LETTER MONOGRAPH UK|1CAPITAL LETTER BROAD OMEGA",
    "1SMALL LETTER BROAD OMEGA|1CAPITAL LETTER NEUTRAL YER|1SMALL LETTER NEUTRAL YER",
    "1CAPITAL LETTER YERU WITH BACK YER|1SMALL LETTER YERU WITH BACK YER",
    "1CAPITAL LETTER IOTIFIED YAT|1SMALL LETTER IOTIFIED YAT|1CAPITAL LETTER REVERSED YU",
    "1SMALL LETTER REVERSED YU|1CAPITAL LETTER IOTIFIED A|1SMALL LETTER IOTIFIED A",
    "1CAPITAL LETTER CLOSED LITTLE YUS|1SMALL LETTER CLOSED LITTLE YUS",
    "1CAPITAL LETTER BLENDED YUS|1SMALL LETTER BLENDED YUS",
    "1CAPITAL LETTER IOTIFIED CLOSED LITTLE YUS|1SMALL LETTER IOTIFIED CLOSED LITTLE YUS",
    "1CAPITAL LETTER YN|1SMALL LETTER YN|1CAPITAL LETTER REVERSED TSE|1SMALL LETTER REVERSED TSE",
    "1CAPITAL LETTER SOFT DE|1SMALL LETTER SOFT DE|1CAPITAL LETTER SOFT EL|1SMALL LETTER SOFT EL",
    "1CAPITAL LETTER SOFT EM|1SMALL LETTER SOFT EM|1CAPITAL LETTER MONOCULAR O",
    "1SMALL LETTER MONOCULAR O|1CAPITAL LETTER BINOCULAR O|1SMALL LETTER BINOCULAR O",
    "1CAPITAL LETTER DOUBLE MONOCULAR O|1SMALL LETTER DOUBLE MONOCULAR O|1LETTER MULTIOCULAR O",
    "0COMBINING CYRILLIC VZMET|2TEN MILLIONS SIGN|2HUNDRED MILLIONS SIGN|2THOUSAND MILLIONS SIGN",
    "0SLAVONIC ASTERISK|0COMBINING CYRILLIC LETTER UKRAINIAN IE|3I|3YI|3U|3HARD SIGN|3YERU",
    "3SOFT SIGN|3OMEGA|2KAVYKA|2PAYEROK|0CYRILLIC KAVYKA|1PAYEROK|1CAPITAL LETTER DWE",
    "1SMALL LETTER DWE|1CAPITAL LETTER DZWE|1SMALL LETTER DZWE|1CAPITAL LETTER ZHWE",
    "1SMALL LETTER ZHWE|1CAPITAL LETTER CCHE|1SMALL LETTER CCHE|1CAPITAL LETTER DZZE",
    "1SMALL LETTER DZZE|1CAPITAL LETTER TE WITH MIDDLE HOOK|1SMALL LETTER TE WITH MIDDLE HOOK",
    "1CAPITAL LETTER TWE|1SMALL LETTER TWE|1CAPITAL LETTER TSWE|1SMALL LETTER TSWE",
    "1CAPITAL LETTER TSSE|1SMALL LETTER TSSE|1CAPITAL LETTER TCHE|1SMALL LETTER TCHE",
    "1CAPITAL LETTER HWE|1SMALL LETTER HWE|1CAPITAL LETTER SHWE|1SMALL LETTER SHWE",
    "1CAPITAL LETTER DOUBLE O|1SMALL LETTER DOUBLE O|1CAPITAL LETTER CROSSED O",
    "1SMALL LETTER CROSSED O|0MODIFIER LETTER CYRILLIC HARD SIGN|3SOFT SIGN",
    "0COMBINING CYRILLIC LETTER EF|3IOTIFIED E|0BAMUM LETTER A|2KA|2U|2KU|2EE|2REE|2TAE|2O|2NYI",
    "2I|2LA|2PA|2RII|2RIEE|2LEEEE|2MEEEE|2TAA|2NDAA|2NJAEM|2M|2SUU|2MU|2SHII|2SI|2SHEUX|2SEUX",
    "2KYEE|2KET|2NUAE|2NU|2NJUAE|2YOQ|2SHU|2YUQ|2YA|2NSHA|2KEUX|2PEUX|2NJEE|2NTEE|2PUE|2WUE|2PEE",
    "2FEE|2RU|2LU|2MI|2NI|2REUX|2RAE|2KEN|2NGKWAEN|2NGGA|2NGA|2SHO|2PUAE|2FU|2FOM|2WA|2NA|2LI|2PI",
    "2LOQ|2KO|2MBEN|2REN|2MEN|2MA|2TI|2KI|2MO|2MBAA|2TET|2KPA|2TEN|2NTUU|2SAMBA|2FAAMAE|2KOVUU",
    "2KOGHOM|1COMBINING MARK KOQNDON|3TUKWENTIS|1NJAEMLI|1FULL STOP|1COLON|1COMMA|1SEMICOLON",
    "1QUESTION MARK|||||||||0MODIFIER LETTER CHINESE TONE YIN PING|4YANG PING|4YIN SHANG",
    "4YANG SHANG|4YIN QU|4YANG QU|4YIN RU|4YANG RU|2EXTRA-HIGH DOTTED TONE BAR",
    "2HIGH DOTTED TONE BAR|2MID DOTTED TONE BAR|2LOW DOTTED TONE BAR|2EXTRA-LOW DOTTED TONE BAR",
    "2EXTRA-HIGH DOTTED LEFT-STEM TONE BAR|2HIGH DOTTED LEFT-STEM TONE BAR",
    "2MID DOTTED LEFT-STEM TONE BAR|2LOW DOTTED LEFT-STEM TONE BAR",
    "2EXTRA-LOW DOTTED LEFT-STEM TONE BAR|2EXTRA-HIGH LEFT-STEM TONE BAR|2HIGH LEFT-STEM TONE BAR",
    "2MID LEFT-STEM TONE BAR|2LOW LEFT-STEM TONE BAR|2EXTRA-LOW LEFT-STEM TONE BAR",
    "2DOT VERTICAL BAR|3SLASH|3HORIZONTAL BAR|2LOWER RIGHT CORNER ANGLE|2RAISED UP ARROW",
    "3DOWN ARROW|3EXCLAMATION MARK|3INVERTED EXCLAMATION MARK|2LOW INVERTED EXCLAMATION MARK",
    "2STRESS AND HIGH TONE|4LOW TONE|0LATIN CAPITAL LETTER EGYPTOLOGICAL ALEF",
    "1SMALL LETTER EGYPTOLOGICAL ALEF|1CAPITAL LETTER EGYPTOLOGICAL AIN",
    "1SMALL LETTER EGYPTOLOGICAL AIN|1CAPITAL LETTER HENG|1SMALL LETTER HENG|1CAPITAL LETTER TZ",
    "1SMALL LETTER TZ|1CAPITAL LETTER TRESILLO|1SMALL LETTER TRESILLO|1CAPITAL LETTER CUATRILLO",
    "1SMALL LETTER CUATRILLO|1CAPITAL LETTER CUATRILLO WITH COMMA",
    "1SMALL LETTER CUATRILLO WITH COMMA|1LETTER SMALL CAPITAL F|4S|1CAPITAL LETTER AA",
    "1SMALL LETTER AA|1CAPITAL LETTER AO|1SMALL LETTER AO|1CAPITAL LETTER AU|1SMALL LETTER AU",
    "1CAPITAL LETTER AV|1SMALL LETTER AV|1CAPITAL LETTER AV WITH HORIZONTAL BAR",
    "1SMALL LETTER AV WITH HORIZONTAL BAR|1CAPITAL LETTER AY|1SMALL LETTER AY",
    "1CAPITAL LETTER REVERSED C WITH DOT|1SMALL LETTER REVERSED C WITH DOT",
    "1CAPITAL LETTER K WITH STROKE|1SMALL LETTER K WITH STROKE",
    "1CAPITAL LETTER K WITH DIAGONAL STROKE|1SMALL LETTER K WITH DIAGONAL STROKE",
    "1CAPITAL LETTER K WITH STROKE AND DIAGONAL STROKE",
    "1SMALL LETTER K WITH STROKE AND DIAGONAL STROKE|1CAPITAL LETTER BROKEN L",
    "1SMALL LETTER BROKEN L|1CAPITAL LETTER L WITH HIGH STROKE|1SMALL LETTER L WITH HIGH STROKE",
    "1CAPITAL LETTER O WITH LONG STROKE OVERLAY|1SMALL LETTER O WITH LONG STROKE OVERLAY",
    "1CAPITAL LETTER O WITH LOOP|1SMALL LETTER O WITH LOOP|1CAPITAL LETTER OO|1SMALL LETTER OO",
    "1CAPITAL LETTER P WITH STROKE THROUGH DESCENDER",
    "1SMALL LETTER P WITH STROKE THROUGH DESCENDER|1CAPITAL LETTER P WITH FLOURISH",
    "1SMALL LETTER P WITH FLOURISH|1CAPITAL LETTER P WITH SQUIRREL TAIL",
    "1SMALL LETTER P WITH SQUIRREL TAIL|1CAPITAL LETTER Q WITH STROKE THROUGH DESCENDER",
    "1SMALL LETTER Q WITH STROKE THROUGH DESCENDER|1CAPITAL LETTER Q WITH DIAGONAL STROKE",
    "1SMALL LETTER Q WITH DIAGONAL STROKE|1CAPITAL LETTER R ROTUNDA|1SMALL LETTER R ROTUNDA",
    "1CAPITAL LETTER RUM ROTUNDA|1SMALL LETTER RUM ROTUNDA|1CAPITAL LETTER V WITH DIAGONAL STROKE",
    "1SMALL LETTER V WITH DIAGONAL STROKE|1CAPITAL LETTER VY|1SMALL LETTER VY",
    "1CAPITAL LETTER VISIGOTHIC Z|1SMALL LETTER VISIGOTHIC Z|1CAPITAL LETTER THORN WITH STROKE",
    "1SMALL LETTER THORN WITH STROKE|1CAPITAL LETTER THORN WITH STROKE THROUGH DESCENDER",
    "1SMALL LETTER THORN WITH STROKE THROUGH DESCENDER|1CAPITAL LETTER VEND|1SMALL LETTER VEND",
    "1CAPITAL LETTER ET|1SMALL LETTER ET|1CAPITAL LETTER IS|1SMALL LETTER IS|1CAPITAL LETTER CON",
    "1SMALL LETTER CON|0MODIFIER LETTER US|0LATIN SMALL LETTER DUM|3LUM|3MUM|3NUM|3RUM",
    "1LETTER SMALL CAPITAL RUM|1SMALL LETTER TUM|3UM|1CAPITAL LETTER INSULAR D",
    "1SMALL LETTER INSULAR D|1CAPITAL LETTER INSULAR F|1SMALL LETTER INSULAR F",
    "1CAPITAL LETTER INSULAR G|3TURNED INSULAR G|1SMALL LETTER TURNED INSULAR G",
    "1CAPITAL LETTER TURNED L|1SMALL LETTER TURNED L|1CAPITAL LETTER INSULAR R",
    "1SMALL LETTER INSULAR R|1CAPITAL LETTER INSULAR S|1SMALL LETTER INSULAR S",
    "1CAPITAL LETTER INSULAR T|1SMALL LETTER INSULAR T|0MODIFIER LETTER LOW CIRCUMFLEX ACCENT",
    "2COLON|2SHORT EQUALS SIGN|0LATIN CAPITAL LETTER SALTILLO|1SMALL LETTER SALTILLO",
    "1CAPITAL LETTER TURNED H|1SMALL LETTER L WITH RETROFLEX HOOK AND BELT",
    "1LETTER SINOLOGICAL DOT|1CAPITAL LETTER N WITH DESCENDER|1SMALL LETTER N WITH DESCENDER",
    "1CAPITAL LETTER C WITH BAR|1SMALL LETTER C WITH BAR|5PALATAL HOOK|3H WITH PALATAL HOOK",
    "1CAPITAL LETTER B WITH FLOURISH|1SMALL LETTER B WITH FLOURISH|1CAPITAL LETTER F WITH STROKE",
    "1SMALL LETTER F WITH STROKE|1CAPITAL LETTER VOLAPUK AE|1SMALL LETTER VOLAPUK AE",
    "1CAPITAL LETTER VOLAPUK OE|1SMALL LETTER VOLAPUK OE|1CAPITAL LETTER VOLAPUK UE",
    "1SMALL LETTER VOLAPUK UE|1CAPITAL LETTER G WITH OBLIQUE STROKE",
    "1SMALL LETTER G WITH OBLIQUE STROKE|1CAPITAL LETTER K WITH OBLIQUE STROKE",
    "1SMALL LETTER K WITH OBLIQUE STROKE|1CAPITAL LETTER N WITH OBLIQUE STROKE",
    "1SMALL LETTER N WITH OBLIQUE STROKE|1CAPITAL LETTER R WITH OBLIQUE STROKE",
    "1SMALL LETTER R WITH OBLIQUE STROKE|1CAPITAL LETTER S WITH OBLIQUE STROKE",
    "1SMALL LETTER S WITH OBLIQUE STROKE|1CAPITAL LETTER H WITH HOOK|3REVERSED OPEN E|3SCRIPT G",
    "3L WITH BELT|3SMALL CAPITAL I|1LETTER SMALL CAPITAL Q|1CAPITAL LETTER TURNED K|4T",
    "3J WITH CROSSED-TAIL|3CHI|3BETA|1SMALL LETTER BETA|1CAPITAL LETTER OMEGA|1SMALL LETTER OMEGA",
    "1CAPITAL LETTER U WITH STROKE|1SMALL LETTER U WITH STROKE|1CAPITAL LETTER GLOTTAL A",
    "1SMALL LETTER GLOTTAL A|1CAPITAL LETTER GLOTTAL I|1SMALL LETTER GLOTTAL I",
    "1CAPITAL LETTER GLOTTAL U|1SMALL LETTER GLOTTAL U|1CAPITAL LETTER OLD POLISH O",
    "1SMALL LETTER OLD POLISH O|1CAPITAL LETTER ANGLICANA W|1SMALL LETTER ANGLICANA W",
    "1CAPITAL LETTER C WITH PALATAL HOOK|3S WITH HOOK|3Z WITH PALATAL HOOK",
    "3D WITH SHORT STROKE OVERLAY|1SMALL LETTER D WITH SHORT STROKE OVERLAY",
    "1CAPITAL LETTER S WITH SHORT STROKE OVERLAY|1SMALL LETTER S WITH SHORT STROKE OVERLAY|||||",
    "1CAPITAL LETTER CLOSED INSULAR G|1SMALL LETTER CLOSED INSULAR G||3DOUBLE THORN||4WYNN",
    "1CAPITAL LETTER MIDDLE SCOTS S|1SMALL LETTER MIDDLE SCOTS S|1CAPITAL LETTER SIGMOID S",
    "1SMALL LETTER SIGMOID S"]⟩,
  ⟨0xa7f2, [
    "0MODIFIER LETTER CAPITAL C|3F|3Q|0LATIN CAPITAL LETTER REVERSED HALF H",
    "1SMALL LETTER REVERSED HALF H|1EPIGRAPHIC LETTER SIDEWAYS I",
    "0MODIFIER LETTER CAPITAL H WITH STROKE|2SMALL LIGATURE OE",
    "0LATIN LETTER SMALL CAPITAL TURNED M|1EPIGRAPHIC LETTER REVERSED F|4P|3INVERTED M|3I LONGA",
    "3ARCHAIC M|0SYLOTI NAGRI LETTER A|3I|2SIGN DVISVARA|2LETTER U|3E|3O|2SIGN HASANTA|2LETTER KO",
    "3KHO|3GO|3GHO|2SIGN ANUSVARA|2LETTER CO|3CHO|3JO|3JHO|3TTO|3TTHO|3DDO|3DDHO|3TO|3THO|3DO",
    "3DHO|3NO|3PO|3PHO|3BO|3BHO|3MO|3RO|3LO|3RRO|3SO|3HO|2VOWEL SIGN A|4I|4U|4E|4OO",
    "2POETRY MARK-1|3MARK-2|3MARK-3|3MARK-4|2SIGN ALTERNATE HASANTA|||",
    "0NORTH INDIC FRACTION ONE QUARTER|4HALF|3THREE QUARTERS|3ONE SIXTEENTH|4EIGHTH",
    "3THREE SIXTEENTHS|2QUARTER MARK|2PLACEHOLDER MARK|2RUPEE MARK|2QUANTITY MARK||||||",
    "0PHAGS-PA LETTER KA|2KHA|2GA|2NGA|2CA|2CHA|2JA|2NYA|2TA|2THA|2DA|2NA|2PA|2PHA|2BA|2MA|2TSA",
    "2TSHA|2DZA|2WA|2ZHA|2ZA|2SMALL A|2YA|2RA|2LA|2SHA|2SA|2HA|2A|2I|2U|2E|2O|2QA|2XA|2FA|2GGA",
    "2EE|1SUBJOINED LETTER WA|3YA|1LETTER TTA|2TTHA|2DDA|2NNA|2ALTERNATE YA|2VOICELESS SHA",
    "2VOICED HA|2ASPIRATED FA|1SUBJOINED LETTER RA|1SUPERFIXED LETTER RA|1LETTER CANDRABINDU",
    "1SINGLE HEAD MARK|1DOUBLE HEAD MARK|1MARK SHAD|2DOUBLE SHAD||||||||",
    "0SAURASHTRA SIGN ANUSVARA|2VISARGA|1LETTER A|2AA|2I|2II|2U|2UU|2VOCALIC R|3RR|3L|3LL|2E|2EE",
    "2AI|2O|2OO|2AU|2KA|2KHA|2GA|2GHA|2NGA|2CA|2CHA|2JA|2JHA|2NYA|2TTA|2TTHA|2DDA|2DDHA|2NNA|2TA",
    "2THA|2DA|2DHA|2NA|2PA|2PHA|2BA|2BHA|2MA|2YA|2RA|2LA|2VA|2SHA|2SSA|2SA|2HA|2LLA",
    "1CONSONANT SIGN HAARU|1VOWEL SIGN AA|3I|3II|3U|3UU|3VOCALIC R|4RR|4L|4LL|3E|3EE|3AI|3O|3OO",
    "3AU|1SIGN VIRAMA|2CANDRABINDU|||||||||1DANDA|1DOUBLE DANDA|1DIGIT ZERO|2ONE|2TWO|2THREE",
    "2FOUR|2FIVE|2SIX|2SEVEN|2EIGHT|2NINE|||||||0COMBINING DEVANAGARI DIGIT ZERO|3ONE|3TWO|3THREE",
    "3FOUR|3FIVE|3SIX|3SEVEN|3EIGHT|3NINE|2LETTER A|3U|3KA|3NA|3PA|3RA|3VI|2SIGN AVAGRAHA",
    "0DEVANAGARI SIGN SPACING CANDRABINDU|2CANDRABINDU VIRAMA|2DOUBLE CANDRABINDU VIRAMA",
    "2CANDRABINDU TWO|3THREE|3AVAGRAHA|2PUSHPIKA|1GAP FILLER|1CARET|1HEADSTROKE|1SIGN SIDDHAM",
    "1JAIN OM|1LETTER AY|1VOWEL SIGN AY|0KAYAH LI DIGIT ZERO|3ONE|3TWO|3THREE|3FOUR|3FIVE|3SIX",
    "3SEVEN|3EIGHT|3NINE|2LETTER KA|3KHA|3GA|3NGA|3SA|3SHA|3ZA|3NYA|3TA|3HTA|3NA|3PA|3PHA|3MA|3DA",
    "3BA|3RA|3YA|3LA|3WA|3THA|3HA|3VA|3CA|3A|3OE|3I|3OO|2VOWEL UE|3E|3U|3EE|3O|2TONE PLOPHU",
    "3CALYA|4PLOPHU|2SIGN CWI|3SHYA|0REJANG LETTER KA|2GA|2NGA|2TA|2DA|2NA|2PA|2BA|2MA|2CA|2JA",
    "2NYA|2SA|2RA|2LA|2YA|2WA|2HA|2MBA|2NGGA|2NDA|2NYJA|2A|1VOWEL SIGN I|3U|3E|3AI|3O|3AU|3EU|3EA",
    "1CONSONANT SIGN NG|3N|3R|3H|1VIRAMA||||||||||||1SECTION MARK|0HANGUL CHOSEONG TIKEUT-MIEUM",
    "2TIKEUT-PIEUP|2TIKEUT-SIOS|2TIKEUT-CIEUC|2RIEUL-KIYEOK|2RIEUL-SSANGKIYEOK|2RIEUL-TIKEUT",
    "2RIEUL-SSANGTIKEUT|2RIEUL-MIEUM|2RIEUL-PIEUP|2RIEUL-SSANGPIEUP|2RIEUL-KAPYEOUNPIEUP",
    "2RIEUL-SIOS|2RIEUL-CIEUC|2RIEUL-KHIEUKH|2MIEUM-KIYEOK|2MIEUM-TIKEUT|2MIEUM-SIOS",
    "2PIEUP-SIOS-THIEUTH|2PIEUP-KHIEUKH|2PIEUP-HIEUH|2SSANGSIOS-PIEUP|2IEUNG-RIEUL|2IEUNG-HIEUH",
    "2SSANGCIEUC-HIEUH|2SSANGTHIEUTH|2PHIEUPH-HIEUH|2HIEUH-SIOS|2SSANGYEORINHIEUH|||",
    "0JAVANESE SIGN PANYANGGA|2CECAK|2LAYAR|2WIGNYAN|1LETTER A|2I KAWI|3|2II|2U|2PA CEREK",
    "2NGA LELET|4RASWADI|2E|2AI|2O|2KA|3SASAK|3MURDA|2GA|3MURDA|2NGA|2CA|3MURDA|2JA|2NYA MURDA",
    "2JA MAHAPRANA|2NYA|2TTA|3MAHAPRANA|2DDA|3MAHAPRANA|2NA MURDA|2TA|3MURDA|2DA|3MAHAPRANA|2NA",
    "2PA|3MURDA|2BA|3MURDA|2MA|2YA|2RA|3AGUNG|2LA|2WA|2SA MURDA|3MAHAPRANA|3|2HA|1SIGN CECAK TELU",
    "1VOWEL SIGN TARUNG|3TOLONG|3WULU|4MELIK|3SUKU|4MENDUT|3TALING|3DIRGA MURE|3PEPET",
    "1CONSONANT SIGN KERET|3PENGKAL|3CAKRA|1PANGKON|1LEFT RERENGGAN|1RIGHT RERENGGAN|1PADA ANDAP",
    "2MADYA|2LUHUR|2WINDU|2PANGKAT|2LINGSA|2LUNGSI|2ADEG|3ADEG|2PISELEH|1TURNED PADA PISELEH|",
    "1PANGRANGKEP|1DIGIT ZERO|2ONE|2TWO|2THREE|2FOUR|2FIVE|2SIX|2SEVEN|2EIGHT|2NINE||||",
    "1PADA TIRTA TUMETES|2ISEN-ISEN|0MYANMAR LETTER SHAN GHA|3CHA|3JHA|3NNA|3BHA|1SIGN SHAN SAW",
    "1MODIFIER LETTER SHAN REDUPLICATION|1LETTER TAI LAING NYA|4FA|4GA|4GHA|4JA|4JHA|4DDA|4DDHA",
    "4NNA|1TAI LAING DIGIT ZERO|4ONE|4TWO|4THREE|4FOUR|4FIVE|4SIX|4SEVEN|4EIGHT|4NINE",
    "1LETTER TAI LAING LLA|4DA|4DHA|4BA|4BHA||0CHAM LETTER A|2I|2U|2E|2AI|2O|2KA|2KHA|2GA|2GHA",
    "2NGUE|2NGA|2CHA|2CHHA|2JA|2JHA|2NHUE|2NHA|2NHJA|2TA|2THA|2DA|2DHA|2NUE|2NA|2DDA|2PA|2PPA",
    "2PHA|2BA|2BHA|2MUE|2MA|2BBA|2YA|2RA|2LA|2VA|2SSA|2SA|2HA|1VOWEL SIGN AA|3I|3II|3EI|3U|3OE|3O",
    "3AI|3AU|3UE|1CONSONANT SIGN YA|3RA|3LA|3WA||||||||||1LETTER FINAL K|3G|3NG",
    "1CONSONANT SIGN FINAL NG|1LETTER FINAL CH|3T|3N|3P|3Y|3R|3L|3SS|1CONSONANT SIGN FINAL M|4H||",
    "1DIGIT ZERO|2ONE|2TWO|2THREE|2FOUR|2FIVE|2SIX|2SEVEN|2EIGHT|2NINE|||1PUNCTUATION SPIRAL",
    "2DANDA|2DOUBLE DANDA|2TRIPLE DANDA|0MYANMAR LETTER KHAMTI GA|3CA|3CHA|3JA|3JHA|3NYA|3TTA",
    "3TTHA|3DDA|3DDHA|3DHA|3NA|3SA|3HA|3HHA|3FA|1MODIFIER LETTER KHAMTI REDUPLICATION",
    "1LETTER KHAMTI XA|3ZA|3RA|1LOGOGRAM KHAMTI OAY|3QN|3HM|1SYMBOL AITON EXCLAMATION|3ONE|3TWO",
    "1LETTER AITON RA|1SIGN PAO KAREN TONE|2TAI LAING TONE-2|4TONE-5|1LETTER SHWE PALAUNG CHA",
    "4SHA|0TAI VIET LETTER LOW KO|3HIGH KO|3LOW KHO|3HIGH KHO|3LOW KHHO|3HIGH KHHO|3LOW GO",
    "3HIGH GO|3LOW NGO|3HIGH NGO|3LOW CO|3HIGH CO|3LOW CHO|3HIGH CHO|3LOW SO|3HIGH SO|3LOW NYO",
    "3HIGH NYO|3LOW DO|3HIGH DO|3LOW TO|3HIGH TO|3LOW THO|3HIGH THO|3LOW NO|3HIGH NO|3LOW BO",
    "3HIGH BO|3LOW PO|3HIGH PO|3LOW PHO|3HIGH PHO|3LOW FO|3HIGH FO|3LOW MO|3HIGH MO|3LOW YO",
    "3HIGH YO|3LOW RO|3HIGH RO|3LOW LO|3HIGH LO|3LOW VO|3HIGH VO|3LOW HO|3HIGH HO|3LOW O|3HIGH O",
    "2MAI KANG|2VOWEL AA|3I|3UE|3U|3E|3O|2MAI KHIT|2VOWEL IA|3UEA|3UA|3AUE|3AY|3AN|3AM",
    "2TONE MAI EK|4NUENG|4THO|4SONG"]⟩,
  ⟨0xaadb, [
    "0TAI VIET SYMBOL KON|3NUENG|3SAM|3HO HOI|3KOI KOI|0MEETEI MAYEK LETTER E|3O|3CHA|3NYA|3TTA",
    "3TTHA|3DDA|3DDHA|3NNA|3SHA|3SSA|2VOWEL SIGN II|4UU|4AAI|4AU|4AAU|2CHEIKHAN|2AHANG KHUDAM",
    "2ANJI|2SYLLABLE REPETITION MARK|2WORD REPETITION MARK|2VOWEL SIGN VISARGA|2VIRAMA||||||||||",
    "0ETHIOPIC SYLLABLE TTHU|2TTHI|2TTHAA|2TTHEE|2TTHE|2TTHO|||2DDHU|2DDHI|2DDHAA|2DDHEE|2DDHE",
    "2DDHO|||2DZU|2DZI|2DZAA|2DZEE|2DZE|2DZO||||||||||2CCHHA|2CCHHU|2CCHHI|2CCHHAA|2CCHHEE|2CCHHE",
    "2CCHHO||2BBA|2BBU|2BBI|2BBAA|2BBEE|2BBE|2BBO||0LATIN SMALL LETTER BARRED ALPHA",
    "3A REVERSED-SCHWA|3BLACKLETTER E|3BARRED E|3E WITH FLOURISH|3LENIS F",
    "3SCRIPT G WITH CROSSED-TAIL|3L WITH INVERTED LAZY S|5DOUBLE MIDDLE TILDE|5MIDDLE RING",
    "3M WITH CROSSED-TAIL|3N WITH CROSSED-TAIL|3ENG WITH CROSSED-TAIL|3BLACKLETTER O|5WITH STROKE",
    "3OPEN O WITH STROKE|3INVERTED OE|3TURNED OE WITH STROKE|6HORIZONTAL STROKE|4O OPEN-O",
    "6WITH STROKE|3STIRRUP R|1LETTER SMALL CAPITAL R WITH RIGHT LEG",
    "1SMALL LETTER R WITHOUT HANDLE|3DOUBLE R|3R WITH CROSSED-TAIL|3DOUBLE R WITH CROSSED-TAIL",
    "3SCRIPT R|5WITH RING|3BASELINE ESH|3U WITH SHORT RIGHT LEG|4BAR WITH SHORT RIGHT LEG|3UI",
    "3TURNED UI|3U WITH LEFT HOOK|3CHI|4WITH LOW RIGHT RING|6LEFT SERIF|3X WITH LOW RIGHT RING",
    "5LONG LEFT LEG|8AND LOW RIGHT RING|8WITH SERIF|3Y WITH SHORT RIGHT LEG",
    "0MODIFIER BREVE WITH INVERTED BREVE|1LETTER SMALL HENG|3L WITH INVERTED LAZY S|5MIDDLE TILDE",
    "3U WITH LEFT HOOK|0LATIN SMALL LETTER SAKHA YAT|3IOTIFIED E|3OPEN OE|3UO|3INVERTED ALPHA",
    "0GREEK LETTER SMALL CAPITAL OMEGA|0LATIN SMALL LETTER DZ DIGRAPH WITH RETROFLEX HOOK",
    "3TS DIGRAPH WITH RETROFLEX HOOK|3TURNED R WITH MIDDLE TILDE|0MODIFIER LETTER SMALL TURNED W",
    "2LEFT TACK|2RIGHT TACK|||||0CHEROKEE SMALL LETTER A|3E|3I|3O|3U|3V|3GA|3KA|3GE|3GI|3GO|3GU",
    "3GV|3HA|3HE|3HI|3HO|3HU|3HV|3LA|3LE|3LI|3LO|3LU|3LV|3MA|3ME|3MI|3MO|3MU|3NA|3HNA|3NAH|3NE",
    "3NI|3NO|3NU|3NV|3QUA|3QUE|3QUI|3QUO|3QUU|3QUV|3SA|3S|3SE|3SI|3SO|3SU|3SV|3DA|3TA|3DE|3TE|3DI",
    "3TI|3DO|3DU|3DV|3DLA|3TLA|3TLE|3TLI|3TLO|3TLU|3TLV|3TSA|3TSE|3TSI|3TSO|3TSU|3TSV|3WA|3WE|3WI",
    "3WO|3WU|3WV|3YA|0MEETEI MAYEK LETTER KOK|3SAM|3LAI|3MIT|3PA|3NA|3CHIL|3TIL|3KHOU|3NGOU|3THOU",
    "3WAI|3YANG|3HUK|3UN|3I|3PHAM|3ATIYA|3GOK|3JHAM|3RAI|3BA|3JIL|3DIL|3GHOU|3DHOU|3BHAM",
    "3KOK LONSUM|3LAI LONSUM|3MIT LONSUM|3PA LONSUM|3NA LONSUM|3TIL LONSUM|3NGOU LONSUM|3I LONSUM",
    "2VOWEL SIGN ONAP|4INAP|4ANAP|4YENAP|4SOUNAP|4UNAP|4CHEINAP|4NUNG|2CHEIKHEI|2LUM IYEK",
    "2APUN IYEK|||2DIGIT ZERO|3ONE|3TWO|3THREE|3FOUR|3FIVE|3SIX|3SEVEN|3EIGHT|3NINE"]⟩,
  ⟨0xd7b0, [
    "0HANGUL JUNGSEONG O-YEO|2O-O-I|2YO-A|2YO-AE|2YO-EO|2U-YEO|2U-I-I|2YU-AE|2YU-O|2EU-A|2EU-EO",
    "2EU-E|2EU-O|2I-YA-O|2I-YAE|2I-YEO|2I-YE|2I-O-I|2I-YO|2I-YU|2I-I|2ARAEA-A|2ARAEA-E||||",
    "1JONGSEONG NIEUN-RIEUL|2NIEUN-CHIEUCH|2SSANGTIKEUT|2SSANGTIKEUT-PIEUP|2TIKEUT-PIEUP",
    "2TIKEUT-SIOS|2TIKEUT-SIOS-KIYEOK|2TIKEUT-CIEUC|2TIKEUT-CHIEUCH|2TIKEUT-THIEUTH",
    "2RIEUL-SSANGKIYEOK|2RIEUL-KIYEOK-HIEUH|2SSANGRIEUL-KHIEUKH|2RIEUL-MIEUM-HIEUH",
    "2RIEUL-PIEUP-TIKEUT|2RIEUL-PIEUP-PHIEUPH|2RIEUL-YESIEUNG|2RIEUL-YEORINHIEUH-HIEUH",
    "2KAPYEOUNRIEUL|2MIEUM-NIEUN|2MIEUM-SSANGNIEUN|2SSANGMIEUM|2MIEUM-PIEUP-SIOS|2MIEUM-CIEUC",
    "2PIEUP-TIKEUT|2PIEUP-RIEUL-PHIEUPH|2PIEUP-MIEUM|2SSANGPIEUP|2PIEUP-SIOS-TIKEUT|2PIEUP-CIEUC",
    "2PIEUP-CHIEUCH|2SIOS-MIEUM|2SIOS-KAPYEOUNPIEUP|2SSANGSIOS-KIYEOK|2SSANGSIOS-TIKEUT",
    "2SIOS-PANSIOS|2SIOS-CIEUC|2SIOS-CHIEUCH|2SIOS-THIEUTH|2SIOS-HIEUH|2PANSIOS-PIEUP",
    "2PANSIOS-KAPYEOUNPIEUP|2YESIEUNG-MIEUM|2YESIEUNG-HIEUH|2CIEUC-PIEUP|2CIEUC-SSANGPIEUP",
    "2SSANGCIEUC|2PHIEUPH-SIOS|2PHIEUPH-THIEUTH"]⟩,
  ⟨0xfb00, [
    "0LATIN SMALL LIGATURE FF|3FI|3FL|3FFI|3FFL|3LONG S T|3ST||||||||||||",
    "0ARMENIAN SMALL LIGATURE MEN NOW|4ECH|4INI|3VEW NOW|3MEN XEH|||||",
    "0HEBREW LETTER YOD WITH HIRIQ|1POINT JUDEO-SPANISH VARIKA|1LIGATURE YIDDISH YOD YOD PATAH",
    "1LETTER ALTERNATIVE AYIN|2WIDE ALEF|3DALET|3HE|3KAF|3LAMED|3FINAL MEM|3RESH|3TAV",
    "2ALTERNATIVE PLUS SIGN|2SHIN WITH SHIN DOT|4SIN DOT|4DAGESH AND SHIN DOT|6SIN DOT",
    "2ALEF WITH PATAH|4QAMATS|4MAPIQ|2BET WITH DAGESH|2GIMEL WITH DAGESH|2DALET WITH DAGESH",
    "2HE WITH MAPIQ|2VAV WITH DAGESH|2ZAYIN WITH DAGESH||2TET WITH DAGESH|2YOD WITH DAGESH",
    "2FINAL KAF WITH DAGESH|2KAF WITH DAGESH|2LAMED WITH DAGESH||2MEM WITH DAGESH|",
    "2NUN WITH DAGESH|2SAMEKH WITH DAGESH||2FINAL PE WITH DAGESH|2PE WITH DAGESH|",
    "2TSADI WITH DAGESH|2QOF WITH DAGESH|2RESH WITH DAGESH|2SHIN WITH DAGESH|2TAV WITH DAGESH",
    "2VAV WITH HOLAM|2BET WITH RAFE|2KAF WITH RAFE|2PE WITH RAFE|1LIGATURE ALEF LAMED"]⟩]

end JsonPatch.Text.Name
