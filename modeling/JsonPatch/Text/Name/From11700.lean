import JsonPatch.Text.Name.Run

/-! # Character names from U+11700 on -/

namespace JsonPatch.Text.Name

/-- The names of the characters from U+11700 to U+11FFF that have one of their own. -/
def from11700 : List Run := [
  ⟨0x11700, [
    "0AHOM LETTER KA|2KHA|2NGA|2NA|2TA|2ALTERNATE TA|2PA|2PHA|2BA|2MA|2JA|2CHA|2THA|2RA|2LA|2SA",
    "2NYA|2HA|2A|2DA|2DHA|2GA|2ALTERNATE GA|2GHA|2BHA|2JHA|2ALTERNATE BA||",
    "1CONSONANT SIGN MEDIAL LA|4RA|4LIGATING RA|1VOWEL SIGN A|3AA|3I|3II|3U|3UU|3E|3AW|3O|3AI|3AM",
    "1SIGN KILLER|||||1DIGIT ZERO|2ONE|2TWO|2THREE|2FOUR|2FIVE|2SIX|2SEVEN|2EIGHT|2NINE",
    "1NUMBER TEN|2TWENTY|1SIGN SMALL SECTION|2SECTION|2RULAI|1SYMBOL VI|1LETTER CA|2TTA|2TTHA",
    "2DDA|2DDHA|2NNA|2LLA"]⟩,
  ⟨0x11800, [
    "0DOGRA LETTER A|2AA|2I|2II|2U|2UU|2E|2AI|2O|2AU|2KA|2KHA|2GA|2GHA|2NGA|2CA|2CHA|2JA|2JHA",
    "2NYA|2TTA|2TTHA|2DDA|2DDHA|2NNA|2TA|2THA|2DA|2DHA|2NA|2PA|2PHA|2BA|2BHA|2MA|2YA|2RA|2LA|2VA",
    "2SHA|2SSA|2SA|2HA|2RRA|1VOWEL SIGN AA|3I|3II|3U|3UU|3VOCALIC R|4RR|3E|3AI|3O|3AU",
    "1SIGN ANUSVARA|2VISARGA|2VIRAMA|2NUKTA|1ABBREVIATION SIGN"]⟩,
  ⟨0x118a0, [
    "0WARANG CITI CAPITAL LETTER NGAA|4A|4WI|4YU|4YA|4YO|4II|4UU|4E|4O|4ANG|4GA|4KO|4ENY|4YUJ|4UC",
    "4ENN|4ODD|4TTE|4NUNG|4DA|4AT|4AM|4BU|4PU|4HIYO|4HOLO|4HORR|4HAR|4SSUU|4SII|4VIYO",
    "2SMALL LETTER NGAA|4A|4WI|4YU|4YA|4YO|4II|4UU|4E|4O|4ANG|4GA|4KO|4ENY|4YUJ|4UC|4ENN|4ODD",
    "4TTE|4NUNG|4DA|4AT|4AM|4BU|4PU|4HIYO|4HOLO|4HORR|4HAR|4SSUU|4SII|4VIYO|2DIGIT ZERO|3ONE|3TWO",
    "3THREE|3FOUR|3FIVE|3SIX|3SEVEN|3EIGHT|3NINE|2NUMBER TEN|3TWENTY|3THIRTY|3FORTY|3FIFTY|3SIXTY",
    "3SEVENTY|3EIGHTY|3NINETY|||||||||||||2OM|0DIVES AKURU LETTER A|3AA|3I|3II|3U|3UU|3E|||3O||",
    "3KA|3KHA|3GA|3GHA|3NGA|3CA|3CHA|3JA||3NYA|3TTA||3DDA|3DDHA|3NNA|3TA|3THA|3DA|3DHA|3NA|3PA",
    "3PHA|3BA|3BHA|3MA|3YA|3YYA|3RA|3LA|3VA|3SHA|3SSA|3SA|3HA|3LLA|3ZA|2VOWEL SIGN AA|4I|4II|4U",
    "4UU|4E||4AI|4O|||2SIGN ANUSVARA|3CANDRABINDU|3HALANTA|2VIRAMA|2PREFIXED NASAL SIGN",
    "2MEDIAL YA|2INITIAL RA|2MEDIAL RA|2SIGN NUKTA|2DOUBLE DANDA|2GAP FILLER|2END OF TEXT MARK|||",
    "||||||2DIGIT ZERO|3ONE|3TWO|3THREE|3FOUR|3FIVE|3SIX|3SEVEN|3EIGHT|3NINE"]⟩,
  ⟨0x119a0, [
    "0NANDINAGARI LETTER A|2AA|2I|2II|2U|2UU|2VOCALIC R|3RR|||2E|2AI|2O|2AU|2KA|2KHA|2GA|2GHA",
    "2NGA|2CA|2CHA|2JA|2JHA|2NYA|2TTA|2TTHA|2DDA|2DDHA|2NNA|2TA|2THA|2DA|2DHA|2NA|2PA|2PHA|2BA",
    "2BHA|2MA|2YA|2RA|2LA|2VA|2SHA|2SSA|2SA|2HA|2LLA|2RRA|1VOWEL SIGN AA|3I|3II|3U|3UU|3VOCALIC R",
    "4RR|||3E|3AI|3O|3AU|1SIGN ANUSVARA|2VISARGA|2VIRAMA|2AVAGRAHA|2SIDDHAM|1HEADSTROKE",
    "1VOWEL SIGN PRISHTHAMATRA E"]⟩,
  ⟨0x11a00, [
    "0ZANABAZAR SQUARE LETTER A|2VOWEL SIGN I|4UE|4U|4E|4OE|4O|4AI|4AU|4REVERSED I|3LENGTH MARK",
    "2LETTER KA|3KHA|3GA|3GHA|3NGA|3CA|3CHA|3JA|3NYA|3TTA|3TTHA|3DDA|3DDHA|3NNA|3TA|3THA|3DA|3DHA",
    "3NA|3PA|3PHA|3BA|3BHA|3MA|3TSA|3TSHA|3DZA|3DZHA|3ZHA|3ZA|3-A|3YA|3RA|3LA|3VA|3SHA|3SSA|3SA",
    "3HA|3KSSA|2FINAL CONSONANT MARK|2SIGN VIRAMA|3CANDRABINDU|4WITH ORNAMENT",
    "3CANDRA WITH ORNAMENT|3ANUSVARA|3VISARGA|2CLUSTER-INITIAL LETTER RA|2CLUSTER-FINAL LETTER YA",
    "4RA|4LA|4VA|2INITIAL HEAD MARK|2CLOSING HEAD MARK|2MARK TSHEG|3SHAD|3DOUBLE SHAD|3LONG TSHEG",
    "2INITIAL DOUBLE-LINED HEAD MARK|2CLOSING DOUBLE-LINED HEAD MARK|2SUBJOINER||||||||",
    "0SOYOMBO LETTER A|1VOWEL SIGN I|3UE|3U|3E|3O|3OE|3AI|3AU|3VOCALIC R|4L|2LENGTH MARK",
    "1LETTER KA|2KHA|2GA|2GHA|2NGA|2CA|2CHA|2JA|2JHA|2NYA|2TTA|2TTHA|2DDA|2DDHA|2NNA|2TA|2THA|2DA",
    "2DHA|2NA|2PA|2PHA|2BA|2BHA|2MA|2TSA|2TSHA|2DZA|2ZHA|2ZA|2-A|2YA|2RA|2LA|2VA|2SHA|2SSA|2SA",
    "2HA|2KSSA|1SIGN JIHVAMULIYA|2UPADHMANIYA|1CLUSTER-INITIAL LETTER RA|3LA|3SHA|3SA",
    "1FINAL CONSONANT SIGN G|4K|4NG|4D|4N|4B|4M|4R|4L|4SH|4S|4-A|1SIGN ANUSVARA|2VISARGA",
    "1GEMINATION MARK|1SUBJOINER|1MARK TSHEG|2SHAD|2DOUBLE SHAD|2PLUTA",
    "1HEAD MARK WITH MOON AND SUN AND TRIPLE FLAME|8FLAME|7|1TERMINAL MARK-1|2MARK-2|||||||||||||",
    "0CANADIAN SYLLABICS NATTILIK HI|3HII|3HO|3HOO|3HA|3HAA|3SHRI|3SHRII|3SHRO|3SHROO|3SHRA",
    "3SHRAA|2SPE|2SPI|2SPO|2SPA|0PAU CIN HAU LETTER PA|4KA|4LA|4MA|4DA|4ZA|4VA|4NGA|4HA|4GA|4KHA",
    "4SA|4BA|4CA|4TA|4THA|4NA|4PHA|4RA|4FA|4CHA|4A|4E|4I|4O|4U|4UA|4IA|4FINAL P|5K|5T|5M|5N|5L|5W",
    "5NG|5Y|3RISING TONE LONG|5|3SANDHI GLOTTAL STOP|3RISING TONE LONG FINAL|5FINAL",
    "3SANDHI GLOTTAL STOP FINAL|4TONE LONG|5|5LONG FINAL|5FINAL|3MID-LEVEL TONE",
    "3GLOTTAL STOP VARIANT|3MID-LEVEL TONE LONG FINAL|5FINAL|3LOW-FALLING TONE LONG|5",
    "3GLOTTAL STOP|3LOW-FALLING TONE LONG FINAL|5FINAL|3GLOTTAL STOP FINAL"]⟩,
  ⟨0x11c00, [
    "0BHAIKSUKI LETTER A|2AA|2I|2II|2U|2UU|2VOCALIC R|3RR|3L||2E|2AI|2O|2AU|2KA|2KHA|2GA|2GHA",
    "2NGA|2CA|2CHA|2JA|2JHA|2NYA|2TTA|2TTHA|2DDA|2DDHA|2NNA|2TA|2THA|2DA|2DHA|2NA|2PA|2PHA|2BA",
    "2BHA|2MA|2YA|2RA|2LA|2VA|2SHA|2SSA|2SA|2HA|1VOWEL SIGN AA|3I|3II|3U|3UU|3VOCALIC R|4RR|4L|",
    "3E|3AI|3O|3AU|1SIGN CANDRABINDU|2ANUSVARA|2VISARGA|2VIRAMA|2AVAGRAHA|1DANDA|1DOUBLE DANDA",
    "1WORD SEPARATOR|1GAP FILLER-1|2FILLER-2|||||||||||1DIGIT ZERO|2ONE|2TWO|2THREE|2FOUR|2FIVE",
    "2SIX|2SEVEN|2EIGHT|2NINE|1NUMBER ONE|2TWO|2THREE|2FOUR|2FIVE|2SIX|2SEVEN|2EIGHT|2NINE|2TEN",
    "2TWENTY|2THIRTY|2FORTY|2FIFTY|2SIXTY|2SEVENTY|2EIGHTY|2NINETY|1HUNDREDS UNIT MARK|||",
    "0MARCHEN HEAD MARK|1MARK SHAD|1LETTER KA|2KHA|2GA|2NGA|2CA|2CHA|2JA|2NYA|2TA|2THA|2DA|2NA",
    "2PA|2PHA|2BA|2MA|2TSA|2TSHA|2DZA|2WA|2ZHA|2ZA|2-A|2YA|2RA|2LA|2SHA|2SA|2HA|2A||",
    "1SUBJOINED LETTER KA|3KHA|3GA|3NGA|3CA|3CHA|3JA|3NYA|3TA|3THA|3DA|3NA|3PA|3PHA|3BA|3MA|3TSA",
    "3TSHA|3DZA|3WA|3ZHA|3ZA||3YA|3RA|3LA|3SHA|3SA|3HA|3A|1VOWEL SIGN AA|3I|3U|3E|3O",
    "1SIGN ANUSVARA|2CANDRABINDU"]⟩,
  ⟨0x11d00, [
    "0MASARAM GONDI LETTER A|3AA|3I|3II|3U|3UU|3E||3AI|3O||3AU|3KA|3KHA|3GA|3GHA|3NGA|3CA|3CHA",
    "3JA|3JHA|3NYA|3TTA|3TTHA|3DDA|3DDHA|3NNA|3TA|3THA|3DA|3DHA|3NA|3PA|3PHA|3BA|3BHA|3MA|3YA|3RA",
    "3LA|3VA|3SHA|3SSA|3SA|3HA|3LLA|3KSSA|3JNYA|3TRA|2VOWEL SIGN AA|4I|4II|4U|4UU|4VOCALIC R|||",
    "4E||4AI|4O||4AU|2SIGN ANUSVARA|3VISARGA|3NUKTA|3CANDRA|3HALANTA|2VIRAMA|2REPHA|2RA-KARA|||||",
    "|||2DIGIT ZERO|3ONE|3TWO|3THREE|3FOUR|3FIVE|3SIX|3SEVEN|3EIGHT|3NINE||||||",
    "0GUNJALA GONDI LETTER A|3AA|3I|3II|3U|3UU||3EE|3AI||3OO|3AU|3YA|3VA|3BA|3BHA|3MA|3KA|3KHA",
    "3TA|3THA|3LA|3GA|3GHA|3DA|3DHA|3NA|3CA|3CHA|3TTA|3TTHA|3LLA|3JA|3JHA|3DDA|3DDHA|3NGA|3PA",
    "3PHA|3HA|3RA|3SA|2VOWEL SIGN AA|4I|4II|4U|4UU||4EE|4AI||4OO|4AU|2SIGN ANUSVARA|3VISARGA",
    "2VIRAMA|2OM||||||||2DIGIT ZERO|3ONE|3TWO|3THREE|3FOUR|3FIVE|3SIX|3SEVEN|3EIGHT|3NINE"]⟩,
  ⟨0x11ee0, [
    "0MAKASAR LETTER KA|2GA|2NGA|2PA|2BA|2MA|2TA|2DA|2NA|2CA|2JA|2NYA|2YA|2RA|2LA|2VA|2SA|2A",
    "1ANGKA|1VOWEL SIGN I|3U|3E|3O|1PASSIMBANG|1END OF SECTION"]⟩,
  ⟨0x11fb0, [
    "0LISU LETTER YHA||||||||||||||||0TAMIL FRACTION ONE THREE-HUNDRED-AND-TWENTIETH",
    "3ONE-HUNDRED-AND-SIXTIETH|3EIGHTIETH|3SIXTY-FOURTH|3FORTIETH|3THIRTY-SECOND",
    "2THREE EIGHTIETHS|3SIXTY-FOURTHS|2ONE TWENTIETH|3SIXTEENTH-1|3SIXTEENTH-2|3TENTH|3EIGHTH",
    "2THREE TWENTIETHS|3SIXTEENTHS|2ONE FIFTH|3QUARTER|3HALF-1|3HALF-2|2THREE QUARTERS",
    "2DOWNSCALING FACTOR KIIZH|1SIGN NEL|2CEVITU|2AAZHAAKKU|2UZHAKKU|2MUUVUZHAKKU|2KURUNI",
    "2PATHAKKU|2MUKKURUNI|2KAACU|2PANAM|2PON|2VARAAKAN|2PAARAM|2KUZHI|2VELI|1WET CULTIVATION SIGN",
    "1DRY CULTIVATION SIGN|1LAND SIGN|1SALT PAN SIGN|1TRADITIONAL CREDIT SIGN|2NUMBER SIGN",
    "1CURRENT SIGN|1AND ODD SIGN|1SPENT SIGN|1TOTAL SIGN|1IN POSSESSION SIGN|1STARTING FROM SIGN",
    "1SIGN MUTHALIYA|2VAKAIYARAA||||||||||||||1PUNCTUATION END OF TEXT"]⟩]

end JsonPatch.Text.Name
