import JsonPatch.Text.Name.Run

/-! # Character names from U+1D000 on -/

namespace JsonPatch.Text.Name

/-- The names of the characters from U+1D000 to U+1EEF1 that have one of their own. -/
def from1D000 : List Run := [
  ⟨0x1d000, [
    "0BYZANTINE MUSICAL SYMBOL PSILI|3DASEIA|3PERISPOMENI|3OXEIA EKFONITIKON|4DIPLI",
    "3VAREIA EKFONITIKON|4DIPLI|3KATHISTI|3SYRMATIKI|3PARAKLITIKI|3YPOKRISIS|4DIPLI|3KREMASTI",
    "3APESO EKFONITIKON|3EXO EKFONITIKON|3TELEIA|3KENTIMATA|3APOSTROFOS|4DIPLI|3SYNEVMA|3THITA",
    "3OLIGON ARCHAION|3GORGON ARCHAION|3PSILON|3CHAMILON|3VATHY|3ISON ARCHAION|3KENTIMA ARCHAION",
    "3KENTIMATA ARCHAION|3SAXIMATA|3PARICHON|3STAVROS APODEXIA|3OXEIAI ARCHAION|3VAREIAI ARCHAION",
    "3APODERMA ARCHAION|3APOTHEMA|3KLASMA|3REVMA|3PIASMA ARCHAION|3TINAGMA|3ANATRICHISMA|3SEISMA",
    "3SYNAGMA ARCHAION|4META STAVROU|3OYRANISMA ARCHAION|3THEMA|3LEMOI|3DYO|3TRIA|3TESSERA",
    "3KRATIMATA|3APESO EXO NEO|3FTHORA ARCHAION|3IMIFTHORA|3TROMIKON ARCHAION|3KATAVA TROMIKON",
    "3PELASTON|3PSIFISTON|3KONTEVMA|3CHOREVMA ARCHAION|3RAPISMA|3PARAKALESMA ARCHAION",
    "3PARAKLITIKI ARCHAION|3ICHADIN|3NANA|3PETASMA|3KONTEVMA ALLO|3TROMIKON ALLO|3STRAGGISMATA",
    "3GRONTHISMATA|3ISON NEO|3OLIGON NEO|3OXEIA NEO|3PETASTI|3KOUFISMA|3PETASTOKOUFISMA",
    "3KRATIMOKOUFISMA|3PELASTON NEO|3KENTIMATA NEO ANO|3KENTIMA NEO ANO|3YPSILI|3APOSTROFOS NEO",
    "3APOSTROFOI SYNDESMOS NEO|3YPORROI|3KRATIMOYPORROON|3ELAFRON|3CHAMILI|3MIKRON ISON",
    "3VAREIA NEO|3PIASMA NEO|3PSIFISTON NEO|3OMALON|3ANTIKENOMA|3LYGISMA|3PARAKLITIKI NEO",
    "3PARAKALESMA NEO|3ETERON PARAKALESMA|3KYLISMA|3ANTIKENOKYLISMA|3TROMIKON NEO|3EKSTREPTON",
    "3SYNAGMA NEO|3SYRMA|3CHOREVMA NEO|3EPEGERMA|3SEISMA NEO|3XIRON KLASMA|3TROMIKOPSIFISTON",
    "3PSIFISTOLYGISMA|3TROMIKOLYGISMA|3TROMIKOPARAKALESMA|3PSIFISTOPARAKALESMA|3TROMIKOSYNAGMA",
    "3PSIFISTOSYNAGMA|3GORGOSYNTHETON|3ARGOSYNTHETON|3ETERON ARGOSYNTHETON|3OYRANISMA NEO",
    "3THEMATISMOS ESO|4EXO|3THEMA APLOUN|3THES KAI APOTHES|3KATAVASMA|3ENDOFONON|3YFEN KATO|4ANO",
    "3STAVROS|3KLASMA ANO|3DIPLI ARCHAION|3KRATIMA ARCHAION|4ALLO|4NEO|3APODERMA NEO|3APLI|3DIPLI",
    "3TRIPLI|3TETRAPLI|3KORONIS|3LEIMMA ENOS CHRONOU|4DYO CHRONON|4TRION CHRONON",
    "4TESSARON CHRONON|4IMISEOS CHRONOU|3GORGON NEO ANO|4PARESTIGMENON ARISTERA|5DEXIA|3DIGORGON",
    "4PARESTIGMENON ARISTERA KATO|6ANO|5DEXIA|3TRIGORGON|3ARGON|3IMIDIARGON|3DIARGON",
    "3AGOGI POLI ARGI|4ARGOTERI|4ARGI|4METRIA|4MESI|4GORGI|4GORGOTERI|4POLI GORGI",
    "3MARTYRIA PROTOS ICHOS|4ALLI PROTOS ICHOS|4DEYTEROS ICHOS|4ALLI DEYTEROS ICHOS|4TRITOS ICHOS",
    "4TRIFONIAS|4TETARTOS ICHOS|5LEGETOS ICHOS|4LEGETOS ICHOS|4PLAGIOS ICHOS",
    "3ISAKIA TELOUS ICHIMATOS|3APOSTROFOI TELOUS ICHIMATOS|3FANEROSIS TETRAFONIAS|4MONOFONIAS",
    "4DIFONIAS|3MARTYRIA VARYS ICHOS|4PROTOVARYS ICHOS|4PLAGIOS TETARTOS ICHOS",
    "3GORTHMIKON N APLOUN|5DIPLOUN|3ENARXIS KAI FTHORA VOU|3IMIFONON|3IMIFTHORON",
    "3FTHORA ARCHAION DEYTEROU ICHOU|4DIATONIKI PA|5NANA|4NAOS ICHOS|4DIATONIKI DI",
    "4SKLIRON DIATONON DI|4DIATONIKI KE|5ZO|5NI KATO|6ANO|4MALAKON CHROMA DIFONIAS|6MONOFONIAS",
    "3FHTORA SKLIRON CHROMA VASIS|3FTHORA SKLIRON CHROMA SYNAFI|4NENANO|3CHROA ZYGOS|4KLITON",
    "4SPATHI|3FTHORA I YFESIS TETARTIMORION|4ENARMONIOS ANTIFONIA|3YFESIS TRITIMORION",
    "3DIESIS TRITIMORION|4TETARTIMORION|4APLI DYO DODEKATA|4MONOGRAMMOS TESSERA DODEKATA",
    "4DIGRAMMOS EX DODEKATA|4TRIGRAMMOS OKTO DODEKATA|3YFESIS APLI DYO DODEKATA",
    "4MONOGRAMMOS TESSERA DODEKATA|4DIGRAMMOS EX DODEKATA|4TRIGRAMMOS OKTO DODEKATA",
    "3GENIKI DIESIS|4YFESIS|3DIASTOLI APLI MIKRI|5MEGALI|4DIPLI|4THESEOS|3SIMANSIS THESEOS",
    "5DISIMOU|5TRISIMOU|5TETRASIMOU|4ARSEOS|5DISIMOU|5TRISIMOU|5TETRASIMOU|3DIGRAMMA GG",
    "3DIFTOGGOS OU|3STIGMA|3ARKTIKO PA|4VOU|4GA|4DI|4KE|4ZO|4NI|3KENTIMATA NEO MESO",
    "3KENTIMA NEO MESO|3KENTIMATA NEO KATO|3KENTIMA NEO KATO|3KLASMA KATO|3GORGON NEO KATO|||||||",
    "|||0MUSICAL SYMBOL SINGLE BARLINE|2DOUBLE BARLINE|2FINAL BARLINE|2REVERSE FINAL BARLINE",
    "2DASHED BARLINE|2SHORT BARLINE|2LEFT REPEAT SIGN|2RIGHT REPEAT SIGN|2REPEAT DOTS|2DAL SEGNO",
    "2DA CAPO|2SEGNO|2CODA|2REPEATED FIGURE-1|3FIGURE-2|3FIGURE-3|2FERMATA|3BELOW|2BREATH MARK",
    "2CAESURA|2BRACE|2BRACKET|2ONE-LINE STAFF|2TWO-LINE STAFF|2THREE-LINE STAFF|2FOUR-LINE STAFF",
    "2FIVE-LINE STAFF|2SIX-LINE STAFF|2SIX-STRING FRETBOARD|2FOUR-STRING FRETBOARD|2G CLEF",
    "4OTTAVA ALTA|5BASSA|2C CLEF|2F CLEF|4OTTAVA ALTA|5BASSA|2DRUM CLEF-1|3CLEF-2||",
    "2MULTIPLE MEASURE REST|2DOUBLE SHARP|3FLAT|2FLAT UP|3DOWN|2NATURAL UP|3DOWN|2SHARP UP|3DOWN",
    "2QUARTER TONE SHARP|4FLAT|2COMMON TIME|2CUT TIME|2OTTAVA ALTA|3BASSA|2QUINDICESIMA ALTA",
    "3BASSA|2MULTI REST|2WHOLE REST|2HALF REST|2QUARTER REST|2EIGHTH REST|2SIXTEENTH REST",
    "2THIRTY-SECOND REST|2SIXTY-FOURTH REST|2ONE HUNDRED TWENTY-EIGHTH REST|2X NOTEHEAD",
    "2PLUS NOTEHEAD|2CIRCLE X NOTEHEAD|2SQUARE NOTEHEAD WHITE|4BLACK|2TRIANGLE NOTEHEAD UP WHITE",
    "5BLACK|4LEFT WHITE|5BLACK|4RIGHT WHITE|5BLACK|4DOWN WHITE|5BLACK|4UP RIGHT WHITE|6BLACK",
    "2MOON NOTEHEAD WHITE|4BLACK|2TRIANGLE-ROUND NOTEHEAD DOWN WHITE|5BLACK|2PARENTHESIS NOTEHEAD",
    "2VOID NOTEHEAD|2NOTEHEAD BLACK|2NULL NOTEHEAD|2CLUSTER NOTEHEAD WHITE|4BLACK|2BREVE",
    "2WHOLE NOTE|2HALF NOTE|2QUARTER NOTE|2EIGHTH NOTE|2SIXTEENTH NOTE|2THIRTY-SECOND NOTE",
    "2SIXTY-FOURTH NOTE|2ONE HUNDRED TWENTY-EIGHTH NOTE|2COMBINING STEM|3SPRECHGESANG STEM",
    "3TREMOLO-1|3TREMOLO-2|3TREMOLO-3|2FINGERED TREMOLO-1|3TREMOLO-2|3TREMOLO-3",
    "2COMBINING AUGMENTATION DOT|3FLAG-1|3FLAG-2|3FLAG-3|3FLAG-4|3FLAG-5|2BEGIN BEAM|2END BEAM",
    "2BEGIN TIE|2END TIE|2BEGIN SLUR|2END SLUR|2BEGIN PHRASE|2END PHRASE|2COMBINING ACCENT",
    "3STACCATO|3TENUTO|3STACCATISSIMO|3MARCATO|3MARCATO-STACCATO|3ACCENT-STACCATO|3LOURE",
    "2ARPEGGIATO UP|3DOWN|2COMBINING DOIT|3RIP|3FLIP|3SMEAR|3BEND|3DOUBLE TONGUE|3TRIPLE TONGUE",
    "2RINFORZANDO|2SUBITO|2Z|2PIANO|2MEZZO|2FORTE|2CRESCENDO|2DECRESCENDO|2GRACE NOTE SLASH",
    "4NO SLASH|2TR|2TURN|2INVERTED TURN|2TURN SLASH|3UP|2ORNAMENT STROKE-1|3STROKE-2|3STROKE-3",
    "3STROKE-4|3STROKE-5|3STROKE-6|3STROKE-7|3STROKE-8|3STROKE-9|3STROKE-10|3STROKE-11",
    "2HAUPTSTIMME|2NEBENSTIMME|2END OF STIMME|2DEGREE SLASH|2COMBINING DOWN BOW|3UP BOW|3HARMONIC",
    "3SNAP PIZZICATO|2PEDAL MARK|3UP MARK|2HALF PEDAL MARK|2GLISSANDO UP|3DOWN|2WITH FINGERNAILS",
    "2DAMP|3ALL|2MAXIMA|2LONGA|2BREVIS|2SEMIBREVIS WHITE|3BLACK|2MINIMA|3BLACK|2SEMIMINIMA WHITE",
    "3BLACK|2FUSA WHITE|3BLACK|2LONGA PERFECTA REST|3IMPERFECTA REST|2BREVIS REST",
    "2SEMIBREVIS REST|2MINIMA REST|2SEMIMINIMA REST|2TEMPUS PERFECTUM CUM PROLATIONE PERFECTA",
    "6IMPERFECTA|6PERFECTA DIMINUTION-1|3IMPERFECTUM CUM PROLATIONE PERFECTA|6IMPERFECTA",
    "7DIMINUTION-1|7DIMINUTION-2|7DIMINUTION-3|2CROIX|2GREGORIAN C CLEF|3F CLEF|2SQUARE B|2VIRGA",
    "2PODATUS|2CLIVIS|2SCANDICUS|2CLIMACUS|2TORCULUS|2PORRECTUS|3FLEXUS|2SCANDICUS FLEXUS",
    "2TORCULUS RESUPINUS|2PES SUBPUNCTIS|2KIEVAN C CLEF|3END OF PIECE|3FINAL NOTE",
    "3RECITATIVE MARK|3WHOLE NOTE|3HALF NOTE|3QUARTER NOTE STEM DOWN|6UP|3EIGHTH NOTE STEM DOWN",
    "6UP|3FLAT SIGN|2SORI|2KORON"]⟩,
  ⟨0x1d200, [
    "0GREEK VOCAL NOTATION SYMBOL-1|3SYMBOL-2|3SYMBOL-3|3SYMBOL-4|3SYMBOL-5|3SYMBOL-6|3SYMBOL-7",
    "3SYMBOL-8|3SYMBOL-9|3SYMBOL-10|3SYMBOL-11|3SYMBOL-12|3SYMBOL-13|3SYMBOL-14|3SYMBOL-15",
    "3SYMBOL-16|3SYMBOL-17|3SYMBOL-18|3SYMBOL-19|3SYMBOL-20|3SYMBOL-21|3SYMBOL-22|3SYMBOL-23",
    "3SYMBOL-24|3SYMBOL-50|3SYMBOL-51|3SYMBOL-52|3SYMBOL-53|3SYMBOL-54",
    "1INSTRUMENTAL NOTATION SYMBOL-1|3SYMBOL-2|3SYMBOL-4|3SYMBOL-5|3SYMBOL-7|3SYMBOL-8|3SYMBOL-11",
    "3SYMBOL-12|3SYMBOL-13|3SYMBOL-14|3SYMBOL-17|3SYMBOL-18|3SYMBOL-19|3SYMBOL-23|3SYMBOL-24",
    "3SYMBOL-25|3SYMBOL-26|3SYMBOL-27|3SYMBOL-29|3SYMBOL-30|3SYMBOL-32|3SYMBOL-36|3SYMBOL-37",
    "3SYMBOL-38|3SYMBOL-39|3SYMBOL-40|3SYMBOL-42|3SYMBOL-43|3SYMBOL-45|3SYMBOL-47|3SYMBOL-48",
    "3SYMBOL-49|3SYMBOL-50|3SYMBOL-51|3SYMBOL-52|3SYMBOL-53|3SYMBOL-54",
    "0COMBINING GREEK MUSICAL TRISEME|3TETRASEME|3PENTASEME|0GREEK MUSICAL LEIMMA"]⟩,
  ⟨0x1d2e0, [
    "0MAYAN NUMERAL ZERO|2ONE|2TWO|2THREE|2FOUR|2FIVE|2SIX|2SEVEN|2EIGHT|2NINE|2TEN|2ELEVEN",
    "2TWELVE|2THIRTEEN|2FOURTEEN|2FIFTEEN|2SIXTEEN|2SEVENTEEN|2EIGHTEEN|2NINETEEN||||||||||||",
    "0MONOGRAM FOR EARTH|0DIGRAM FOR HEAVENLY EARTH|2HUMAN EARTH|2EARTHLY HEAVEN|3HUMAN|2EARTH",
    "0TETRAGRAM FOR CENTRE|2FULL CIRCLE|2MIRED|2BARRIER|2KEEPING SMALL|2CONTRARIETY|2ASCENT",
    "2OPPOSITION|2BRANCHING OUT|2DEFECTIVENESS OR DISTORTION|2DIVERGENCE|2YOUTHFULNESS|2INCREASE",
    "2PENETRATION|2REACH|2CONTACT|2HOLDING BACK|2WAITING|2FOLLOWING|2ADVANCE|2RELEASE|2RESISTANCE",
    "2EASE|2JOY|2CONTENTION|2ENDEAVOUR|2DUTIES|2CHANGE|2DECISIVENESS|2BOLD RESOLUTION|2PACKING",
    "2LEGION|2CLOSENESS|2KINSHIP|2GATHERING|2STRENGTH|2PURITY|2FULLNESS|2RESIDENCE|2LAW OR MODEL",
    "2RESPONSE|2GOING TO MEET|2ENCOUNTERS|2STOVE|2GREATNESS|2ENLARGEMENT|2PATTERN|2RITUAL|2FLIGHT",
    "2VASTNESS OR WASTING|2CONSTANCY|2MEASURE|2ETERNITY|2UNITY|2DIMINISHMENT|2CLOSED MOUTH",
    "2GUARDEDNESS|2GATHERING IN|2MASSING|2ACCUMULATION|2EMBELLISHMENT|2DOUBT|2WATCH|2SINKING",
    "2INNER|2DEPARTURE|2DARKENING|2DIMMING|2EXHAUSTION|2SEVERANCE|2STOPPAGE|2HARDNESS|2COMPLETION",
    "2CLOSURE|2FAILURE|2AGGRAVATION|2COMPLIANCE|2ON THE VERGE|2DIFFICULTIES|2LABOURING|2FOSTERING",
    "|||||||||0COUNTING ROD UNIT DIGIT ONE|4TWO|4THREE|4FOUR|4FIVE|4SIX|4SEVEN|4EIGHT|4NINE",
    "2TENS DIGIT ONE|4TWO|4THREE|4FOUR|4FIVE|4SIX|4SEVEN|4EIGHT|4NINE|0IDEOGRAPHIC TALLY MARK ONE",
    "3TWO|3THREE|3FOUR|3FIVE|0TALLY MARK ONE|2FIVE"]⟩,
  ⟨0x1d400, [
    "0MATHEMATICAL BOLD CAPITAL A|3B|3C|3D|3E|3F|3G|3H|3I|3J|3K|3L|3M|3N|3O|3P|3Q|3R|3S|3T|3U|3V",
    "3W|3X|3Y|3Z|2SMALL A|3B|3C|3D|3E|3F|3G|3H|3I|3J|3K|3L|3M|3N|3O|3P|3Q|3R|3S|3T|3U|3V|3W|3X|3Y",
    "3Z|1ITALIC CAPITAL A|3B|3C|3D|3E|3F|3G|3H|3I|3J|3K|3L|3M|3N|3O|3P|3Q|3R|3S|3T|3U|3V|3W|3X|3Y",
    "3Z|2SMALL A|3B|3C|3D|3E|3F|3G||3I|3J|3K|3L|3M|3N|3O|3P|3Q|3R|3S|3T|3U|3V|3W|3X|3Y|3Z",
    "1BOLD ITALIC CAPITAL A|4B|4C|4D|4E|4F|4G|4H|4I|4J|4K|4L|4M|4N|4O|4P|4Q|4R|4S|4T|4U|4V|4W|4X",
    "4Y|4Z|3SMALL A|4B|4C|4D|4E|4F|4G|4H|4I|4J|4K|4L|4M|4N|4O|4P|4Q|4R|4S|4T|4U|4V|4W|4X|4Y|4Z",
    "1SCRIPT CAPITAL A||3C|3D|||3G|||3J|3K|||3N|3O|3P|3Q||3S|3T|3U|3V|3W|3X|3Y|3Z|2SMALL A|3B|3C",
    "3D||3F||3H|3I|3J|3K|3L|3M|3N||3P|3Q|3R|3S|3T|3U|3V|3W|3X|3Y|3Z|1BOLD SCRIPT CAPITAL A|4B|4C",
    "4D|4E|4F|4G|4H|4I|4J|4K|4L|4M|4N|4O|4P|4Q|4R|4S|4T|4U|4V|4W|4X|4Y|4Z|3SMALL A|4B|4C|4D|4E|4F",
    "4G|4H|4I|4J|4K|4L|4M|4N|4O|4P|4Q|4R|4S|4T|4U|4V|4W|4X|4Y|4Z|1FRAKTUR CAPITAL A|3B||3D|3E|3F",
    "3G|||3J|3K|3L|3M|3N|3O|3P|3Q||3S|3T|3U|3V|3W|3X|3Y||2SMALL A|3B|3C|3D|3E|3F|3G|3H|3I|3J|3K",
    "3L|3M|3N|3O|3P|3Q|3R|3S|3T|3U|3V|3W|3X|3Y|3Z|1DOUBLE-STRUCK CAPITAL A|3B||3D|3E|3F|3G||3I|3J",
    "3K|3L|3M||3O||||3S|3T|3U|3V|3W|3X|3Y||2SMALL A|3B|3C|3D|3E|3F|3G|3H|3I|3J|3K|3L|3M|3N|3O|3P",
    "3Q|3R|3S|3T|3U|3V|3W|3X|3Y|3Z|1BOLD FRAKTUR CAPITAL A|4B|4C|4D|4E|4F|4G|4H|4I|4J|4K|4L|4M|4N",
    "4O|4P|4Q|4R|4S|4T|4U|4V|4W|4X|4Y|4Z|3SMALL A|4B|4C|4D|4E|4F|4G|4H|4I|4J|4K|4L|4M|4N|4O|4P|4Q",
    "4R|4S|4T|4U|4V|4W|4X|4Y|4Z|1SANS-SERIF CAPITAL A|3B|3C|3D|3E|3F|3G|3H|3I|3J|3K|3L|3M|3N|3O",
    "3P|3Q|3R|3S|3T|3U|3V|3W|3X|3Y|3Z|2SMALL A|3B|3C|3D|3E|3F|3G|3H|3I|3J|3K|3L|3M|3N|3O|3P|3Q|3R",
    "3S|3T|3U|3V|3W|3X|3Y|3Z|2BOLD CAPITAL A|4B|4C|4D|4E|4F|4G|4H|4I|4J|4K|4L|4M|4N|4O|4P|4Q|4R",
    "4S|4T|4U|4V|4W|4X|4Y|4Z|3SMALL A|4B|4C|4D|4E|4F|4G|4H|4I|4J|4K|4L|4M|4N|4O|4P|4Q|4R|4S|4T|4U",
    "4V|4W|4X|4Y|4Z|2ITALIC CAPITAL A|4B|4C|4D|4E|4F|4G|4H|4I|4J|4K|4L|4M|4N|4O|4P|4Q|4R|4S|4T|4U",
    "4V|4W|4X|4Y|4Z|3SMALL A|4B|4C|4D|4E|4F|4G|4H|4I|4J|4K|4L|4M|4N|4O|4P|4Q|4R|4S|4T|4U|4V|4W|4X",
    "4Y|4Z|2BOLD ITALIC CAPITAL A|5B|5C|5D|5E|5F|5G|5H|5I|5J|5K|5L|5M|5N|5O|5P|5Q|5R|5S|5T|5U|5V",
    "5W|5X|5Y|5Z|4SMALL A|5B|5C|5D|5E|5F|5G|5H|5I|5J|5K|5L|5M|5N|5O|5P|5Q|5R|5S|5T|5U|5V|5W|5X|5Y",
    "5Z|1MONOSPACE CAPITAL A|3B|3C|3D|3E|3F|3G|3H|3I|3J|3K|3L|3M|3N|3O|3P|3Q|3R|3S|3T|3U|3V|3W|3X",
    "3Y|3Z|2SMALL A|3B|3C|3D|3E|3F|3G|3H|3I|3J|3K|3L|3M|3N|3O|3P|3Q|3R|3S|3T|3U|3V|3W|3X|3Y|3Z",
    "1ITALIC SMALL DOTLESS I|4J|||1BOLD CAPITAL ALPHA|3BETA|3GAMMA|3DELTA|3EPSILON|3ZETA|3ETA",
    "3THETA|3IOTA|3KAPPA|3LAMDA|3MU|3NU|3XI|3OMICRON|3PI|3RHO|3THETA SYMBOL|3SIGMA|3TAU|3UPSILON",
    "3PHI|3CHI|3PSI|3OMEGA|2NABLA|2SMALL ALPHA|3BETA|3GAMMA|3DELTA|3EPSILON|3ZETA|3ETA|3THETA",
    "3IOTA|3KAPPA|3LAMDA|3MU|3NU|3XI|3OMICRON|3PI|3RHO|3FINAL SIGMA|3SIGMA|3TAU|3UPSILON|3PHI",
    "3CHI|3PSI|3OMEGA|2PARTIAL DIFFERENTIAL|2EPSILON SYMBOL|2THETA SYMBOL|2KAPPA SYMBOL",
    "2PHI SYMBOL|2RHO SYMBOL|2PI SYMBOL|1ITALIC CAPITAL ALPHA|3BETA|3GAMMA|3DELTA|3EPSILON|3ZETA",
    "3ETA|3THETA|3IOTA|3KAPPA|3LAMDA|3MU|3NU|3XI|3OMICRON|3PI|3RHO|3THETA SYMBOL|3SIGMA|3TAU",
    "3UPSILON|3PHI|3CHI|3PSI|3OMEGA|2NABLA|2SMALL ALPHA|3BETA|3GAMMA|3DELTA|3EPSILON|3ZETA|3ETA",
    "3THETA|3IOTA|3KAPPA|3LAMDA|3MU|3NU|3XI|3OMICRON|3PI|3RHO|3FINAL SIGMA|3SIGMA|3TAU|3UPSILON",
    "3PHI|3CHI|3PSI|3OMEGA|2PARTIAL DIFFERENTIAL|2EPSILON SYMBOL|2THETA SYMBOL|2KAPPA SYMBOL",
    "2PHI SYMBOL|2RHO SYMBOL|2PI SYMBOL|1BOLD ITALIC CAPITAL ALPHA|4BETA|4GAMMA|4DELTA|4EPSILON",
    "4ZETA|4ETA|4THETA|4IOTA|4KAPPA|4LAMDA|4MU|4NU|4XI|4OMICRON|4PI|4RHO|4THETA SYMBOL|4SIGMA",
    "4TAU|4UPSILON|4PHI|4CHI|4PSI|4OMEGA|3NABLA|3SMALL ALPHA|4BETA|4GAMMA|4DELTA|4EPSILON|4ZETA",
    "4ETA|4THETA|4IOTA|4KAPPA|4LAMDA|4MU|4NU|4XI|4OMICRON|4PI|4RHO|4FINAL SIGMA|4SIGMA|4TAU",
    "4UPSILON|4PHI|4CHI|4PSI|4OMEGA|3PARTIAL DIFFERENTIAL|3EPSILON SYMBOL|3THETA SYMBOL",
    "3KAPPA SYMBOL|3PHI SYMBOL|3RHO SYMBOL|3PI SYMBOL|1SANS-SERIF BOLD CAPITAL ALPHA|4BETA|4GAMMA",
    "4DELTA|4EPSILON|4ZETA|4ETA|4THETA|4IOTA|4KAPPA|4LAMDA|4MU|4NU|4XI|4OMICRON|4PI|4RHO",
    "4THETA SYMBOL|4SIGMA|4TAU|4UPSILON|4PHI|4CHI|4PSI|4OMEGA|3NABLA|3SMALL ALPHA|4BETA|4GAMMA",
    "4DELTA|4EPSILON|4ZETA|4ETA|4THETA|4IOTA|4KAPPA|4LAMDA|4MU|4NU|4XI|4OMICRON|4PI|4RHO",
    "4FINAL SIGMA|4SIGMA|4TAU|4UPSILON|4PHI|4CHI|4PSI|4OMEGA|3PARTIAL DIFFERENTIAL",
    "3EPSILON SYMBOL|3THETA SYMBOL|3KAPPA SYMBOL|3PHI SYMBOL|3RHO SYMBOL|3PI SYMBOL",
    "3ITALIC CAPITAL ALPHA|5BETA|5GAMMA|5DELTA|5EPSILON|5ZETA|5ETA|5THETA|5IOTA|5KAPPA|5LAMDA|5MU",
    "5NU|5XI|5OMICRON|5PI|5RHO|5THETA SYMBOL|5SIGMA|5TAU|5UPSILON|5PHI|5CHI|5PSI|5OMEGA|4NABLA",
    "4SMALL ALPHA|5BETA|5GAMMA|5DELTA|5EPSILON|5ZETA|5ETA|5THETA|5IOTA|5KAPPA|5LAMDA|5MU|5NU|5XI",
    "5OMICRON|5PI|5RHO|5FINAL SIGMA|5SIGMA|5TAU|5UPSILON|5PHI|5CHI|5PSI|5OMEGA",
    "4PARTIAL DIFFERENTIAL|4EPSILON SYMBOL|4THETA SYMBOL|4KAPPA SYMBOL|4PHI SYMBOL|4RHO SYMBOL",
    "4PI SYMBOL|1BOLD CAPITAL DIGAMMA|2SMALL DIGAMMA|||2DIGIT ZERO|3ONE|3TWO|3THREE|3FOUR|3FIVE",
    "3SIX|3SEVEN|3EIGHT|3NINE|1DOUBLE-STRUCK DIGIT ZERO|3ONE|3TWO|3THREE|3FOUR|3FIVE|3SIX|3SEVEN",
    "3EIGHT|3NINE|1SANS-SERIF DIGIT ZERO|3ONE|3TWO|3THREE|3FOUR|3FIVE|3SIX|3SEVEN|3EIGHT|3NINE",
    "2BOLD DIGIT ZERO|4ONE|4TWO|4THREE|4FOUR|4FIVE|4SIX|4SEVEN|4EIGHT|4NINE|1MONOSPACE DIGIT ZERO",
    "3ONE|3TWO|3THREE|3FOUR|3FIVE|3SIX|3SEVEN|3EIGHT|3NINE|0SIGNWRITING HAND-FIST INDEX",
    "1HAND-CIRCLE INDEX|1HAND-CUP INDEX|1HAND-OVAL INDEX|1HAND-HINGE INDEX|1HAND-ANGLE INDEX",
    "1HAND-FIST INDEX BENT|1HAND-CIRCLE INDEX BENT|1HAND-FIST THUMB UNDER INDEX BENT",
    "2INDEX RAISED KNUCKLE|3CUPPED|3HINGED|4LOW|1HAND-CIRCLE INDEX HINGE|1HAND-FIST INDEX MIDDLE",
    "1HAND-CIRCLE INDEX MIDDLE|1HAND-FIST INDEX MIDDLE BENT|4RAISED KNUCKLES|4HINGED",
    "3UP MIDDLE HINGED|3HINGED MIDDLE UP|3MIDDLE CONJOINED|5INDEX BENT|5MIDDLE BENT|5CUPPED",
    "5HINGED|4CROSSED|1HAND-CIRCLE INDEX MIDDLE CROSSED|1HAND-FIST MIDDLE BENT OVER INDEX",
    "2INDEX BENT OVER MIDDLE|3MIDDLE THUMB|1HAND-CIRCLE INDEX MIDDLE THUMB",
    "1HAND-FIST INDEX MIDDLE STRAIGHT THUMB BENT|4BENT THUMB STRAIGHT|4THUMB BENT",
    "4HINGED SPREAD THUMB SIDE|3UP MIDDLE HINGED THUMB SIDE|7CONJOINED",
    "3HINGED MIDDLE UP THUMB SIDE|3MIDDLE UP SPREAD THUMB FORWARD|4THUMB CUPPED|5CIRCLED|5HOOKED",
    "5HINGED|2THUMB BETWEEN INDEX MIDDLE STRAIGHT|2INDEX MIDDLE CONJOINED THUMB SIDE|7CONJOINED",
    "7BENT|2MIDDLE THUMB HOOKED INDEX UP|2INDEX THUMB HOOKED MIDDLE UP",
    "3MIDDLE CONJOINED HINGED THUMB SIDE|4CROSSED THUMB SIDE|4CONJOINED THUMB FORWARD",
    "5CUPPED THUMB FORWARD|2MIDDLE THUMB CUPPED INDEX UP|2INDEX THUMB CUPPED MIDDLE UP",
    "2MIDDLE THUMB CIRCLED INDEX UP|6HINGED|2INDEX THUMB ANGLED OUT MIDDLE UP|5IN MIDDLE UP",
    "4CIRCLED MIDDLE UP|3MIDDLE THUMB CONJOINED HINGED|5ANGLED OUT|6",
    "2MIDDLE THUMB ANGLED OUT INDEX UP|7CROSSED|5INDEX UP|2INDEX THUMB HOOKED MIDDLE HINGED",
    "1HAND-FLAT FOUR FINGERS|4BENT|4HINGED|4CONJOINED|5SPLIT|1HAND-CLAW FOUR FINGERS CONJOINED",
    "1HAND-FIST FOUR FINGERS CONJOINED BENT|1HAND-HINGE FOUR FINGERS CONJOINED",
    "1HAND-FLAT FIVE FINGERS SPREAD|2HEEL FIVE FINGERS SPREAD|2FIVE FINGERS SPREAD FOUR BENT",
    "2HEEL FIVE FINGERS SPREAD FOUR BENT|2FIVE FINGERS SPREAD BENT|2HEEL FIVE FINGERS SPREAD BENT",
    "2FIVE FINGERS SPREAD THUMB FORWARD|1HAND-CUP FIVE FINGERS SPREAD|5OPEN",
    "1HAND-HINGE FIVE FINGERS SPREAD OPEN|1HAND-OVAL FIVE FINGERS SPREAD",
    "1HAND-FLAT FIVE FINGERS SPREAD HINGED|6THUMB SIDE|6NO THUMB|2|2BETWEEN PALM FACINGS|2HEEL",
    "2THUMB SIDE|2HEEL THUMB SIDE|2THUMB BENT|3FORWARD|2SPLIT INDEX THUMB SIDE|3CENTRE",
    "4THUMB SIDE|6BENT|3LITTLE|1HAND-CLAW|2THUMB SIDE|2NO THUMB|2THUMB FORWARD",
    "1HAND-HOOK CURLICUE|2|1HAND-CUP OPEN|2|2OPEN THUMB SIDE|2THUMB SIDE|2OPEN NO THUMB|2NO THUMB",
    "2OPEN THUMB FORWARD|2THUMB FORWARD|1HAND-CURLICUE OPEN|2|1HAND-CIRCLE|1HAND-OVAL|2THUMB SIDE",
    "2NO THUMB|2THUMB FORWARD|1HAND-HINGE OPEN|3THUMB FORWARD|2|2SMALL|2OPEN THUMB SIDE",
    "2THUMB SIDE|2OPEN NO THUMB|2NO THUMB|2THUMB SIDE TOUCHING INDEX|3BETWEEN MIDDLE RING",
    "1HAND-ANGLE|1HAND-FIST INDEX MIDDLE RING|1HAND-CIRCLE INDEX MIDDLE RING",
    "1HAND-HINGE INDEX MIDDLE RING|1HAND-ANGLE INDEX MIDDLE RING|1HAND-HINGE LITTLE",
    "1HAND-FIST INDEX MIDDLE RING BENT|5CONJOINED|1HAND-HINGE INDEX MIDDLE RING CONJOINED",
    "1HAND-FIST LITTLE DOWN|4RIPPLE STRAIGHT|5CURVED|4OTHERS CIRCLED|3UP|2THUMB UNDER LITTLE UP",
    "1HAND-CIRCLE LITTLE UP|1HAND-OVAL LITTLE UP|1HAND-ANGLE LITTLE UP",
    "1HAND-FIST LITTLE RAISED KNUCKLE|3BENT|3TOUCHES THUMB|3THUMB|1HAND-HINGE LITTLE THUMB",
    "1HAND-FIST LITTLE INDEX THUMB|1HAND-HINGE LITTLE INDEX THUMB",
    "1HAND-ANGLE LITTLE INDEX THUMB INDEX THUMB OUT|7|1HAND-FIST LITTLE INDEX",
    "1HAND-CIRCLE LITTLE INDEX|1HAND-HINGE LITTLE INDEX|1HAND-ANGLE LITTLE INDEX",
    "1HAND-FIST INDEX MIDDLE LITTLE|1HAND-CIRCLE INDEX MIDDLE LITTLE",
    "1HAND-HINGE INDEX MIDDLE LITTLE|2RING|1HAND-ANGLE INDEX MIDDLE LITTLE",
    "1HAND-FIST INDEX MIDDLE CROSS LITTLE|1HAND-CIRCLE INDEX MIDDLE CROSS LITTLE",
    "1HAND-FIST RING DOWN|1HAND-HINGE RING DOWN INDEX THUMB HOOK MIDDLE",
    "1HAND-ANGLE RING DOWN MIDDLE THUMB INDEX CROSS|1HAND-FIST RING UP|3RAISED KNUCKLE|3LITTLE",
    "1HAND-CIRCLE RING LITTLE|1HAND-OVAL RING LITTLE|1HAND-ANGLE RING LITTLE",
    "1HAND-FIST RING MIDDLE|4CONJOINED|4RAISED KNUCKLES|3INDEX|3THUMB|1HAND-HOOK RING THUMB",
    "1HAND-FIST INDEX RING LITTLE|1HAND-CIRCLE INDEX RING LITTLE",
    "1HAND-CURLICUE INDEX RING LITTLE ON|1HAND-HOOK INDEX RING LITTLE OUT|5IN|5UNDER",
    "1HAND-CUP INDEX RING LITTLE|1HAND-HINGE INDEX RING LITTLE|1HAND-ANGLE INDEX RING LITTLE OUT",
    "5|1HAND-FIST MIDDLE DOWN|1HAND-HINGE MIDDLE|1HAND-FIST MIDDLE UP|1HAND-CIRCLE MIDDLE UP",
    "1HAND-FIST MIDDLE RAISED KNUCKLE|3UP THUMB SIDE|1HAND-HOOK MIDDLE THUMB",
    "1HAND-FIST MIDDLE THUMB LITTLE|3LITTLE|3RING LITTLE|1HAND-CIRCLE MIDDLE RING LITTLE",
    "1HAND-CURLICUE MIDDLE RING LITTLE ON|1HAND-CUP MIDDLE RING LITTLE",
    "1HAND-HINGE MIDDLE RING LITTLE|1HAND-ANGLE MIDDLE RING LITTLE OUT|5IN|5",
    "1HAND-CIRCLE MIDDLE RING LITTLE BENT|1HAND-CLAW MIDDLE RING LITTLE CONJOINED|6SIDE",
    "1HAND-HOOK MIDDLE RING LITTLE CONJOINED OUT|6IN|6|1HAND-HINGE INDEX HINGED",
    "1HAND-FIST INDEX THUMB SIDE|1HAND-HINGE INDEX THUMB SIDE",
    "1HAND-FIST INDEX THUMB SIDE THUMB DIAGONAL|6CONJOINED|6BENT|5INDEX BENT|5BOTH BENT",
    "5INDEX HINGE|4FORWARD INDEX STRAIGHT|6BENT|4HOOK|4CURLICUE|4CURVE THUMB INSIDE",
    "1HAND-CLAW INDEX THUMB CURVE THUMB INSIDE|1HAND-FIST INDEX THUMB CURVE THUMB UNDER|4CIRCLE",
    "1HAND-CUP INDEX THUMB|4OPEN|1HAND-HINGE INDEX THUMB OPEN|4LARGE|4|4SMALL",
    "1HAND-ANGLE INDEX THUMB OUT|4IN|4|1HAND-FIST THUMB|3HEEL|3SIDE DIAGONAL|4CONJOINED|4BENT",
    "3FORWARD|3BETWEEN INDEX MIDDLE|4MIDDLE RING|4RING LITTLE|3UNDER TWO FINGERS",
    "3OVER TWO FINGERS|3UNDER THREE FINGERS|4FOUR FINGERS|3OVER FOUR RAISED KNUCKLES|2|2HEEL",
    "1TOUCH SINGLE|2MULTIPLE|2BETWEEN|1GRASP SINGLE|2MULTIPLE|2BETWEEN|1STRIKE SINGLE|2MULTIPLE",
    "2BETWEEN|1BRUSH SINGLE|2MULTIPLE|2BETWEEN|1RUB SINGLE|2MULTIPLE|2BETWEEN|1SURFACE SYMBOLS",
    "2BETWEEN|1SQUEEZE LARGE SINGLE|2SMALL SINGLE|2LARGE MULTIPLE|2SMALL MULTIPLE|2SEQUENTIAL",
    "1FLICK LARGE SINGLE|2SMALL SINGLE|2LARGE MULTIPLE|2SMALL MULTIPLE|2SEQUENTIAL",
    "1SQUEEZE FLICK ALTERNATING|1MOVEMENT-HINGE UP DOWN LARGE|4SMALL|3SEQUENTIAL|2DOWN SEQUENTIAL",
    "2UP DOWN ALTERNATING LARGE|5SMALL|2SIDE TO SIDE SCISSORS|1MOVEMENT-WALLPLANE FINGER CONTACT",
    "1MOVEMENT-FLOORPLANE FINGER CONTACT|1MOVEMENT-WALLPLANE SINGLE STRAIGHT SMALL|4MEDIUM|4LARGE",
    "4LARGEST|3WRIST FLEX|2DOUBLE STRAIGHT|3WRIST FLEX|3ALTERNATING|4WRIST FLEX|2CROSS",
    "2TRIPLE STRAIGHT MOVEMENT|3WRIST FLEX|3ALTERNATING|4WRIST FLEX|2BEND SMALL|3MEDIUM|3LARGE",
    "2CORNER SMALL|3MEDIUM|3LARGE|3ROTATION|2CHECK SMALL|3MEDIUM|3LARGE|2BOX SMALL|3MEDIUM|3LARGE",
    "2ZIGZAG SMALL|3MEDIUM|3LARGE|2PEAKS SMALL|3MEDIUM|3LARGE",
    "1TRAVEL-WALLPLANE ROTATION-WALLPLANE SINGLE|3DOUBLE|3ALTERNATING|2ROTATION-FLOORPLANE SINGLE",
    "3DOUBLE|3ALTERNATING|2SHAKING|2ARM SPIRAL SINGLE|4DOUBLE|4TRIPLE",
    "1MOVEMENT-DIAGONAL AWAY SMALL|3MEDIUM|3LARGE|3LARGEST|2TOWARDS SMALL|3MEDIUM|3LARGE|3LARGEST",
    "2BETWEEN AWAY SMALL|4MEDIUM|4LARGE|4LARGEST|3TOWARDS SMALL|4MEDIUM|4LARGE|4LARGEST",
    "1MOVEMENT-FLOORPLANE SINGLE STRAIGHT SMALL|4MEDIUM|4LARGE|4LARGEST|3WRIST FLEX",
    "2DOUBLE STRAIGHT|3WRIST FLEX|3ALTERNATING|4WRIST FLEX|2CROSS|2TRIPLE STRAIGHT MOVEMENT",
    "3WRIST FLEX|3ALTERNATING MOVEMENT|4WRIST FLEX|2BEND|2CORNER SMALL|3MEDIUM|3LARGE|2CHECK",
    "2BOX SMALL|3MEDIUM|3LARGE|2ZIGZAG SMALL|3MEDIUM|3LARGE|2PEAKS SMALL|3MEDIUM|3LARGE",
    "1TRAVEL-FLOORPLANE ROTATION-FLOORPLANE SINGLE|3DOUBLE|3ALTERNATING",
    "2ROTATION-WALLPLANE SINGLE|3DOUBLE|3ALTERNATING|2SHAKING",
    "1MOVEMENT-WALLPLANE CURVE QUARTER SMALL|4MEDIUM|4LARGE|4LARGEST|3HALF-CIRCLE SMALL|4MEDIUM",
    "4LARGE|4LARGEST|3THREE-QUARTER CIRCLE SMALL|5MEDIUM|2HUMP SMALL|3MEDIUM|3LARGE|2LOOP SMALL",
    "3MEDIUM|3LARGE|3SMALL DOUBLE|2WAVE CURVE DOUBLE SMALL|5MEDIUM|5LARGE|4TRIPLE SMALL|5MEDIUM",
    "5LARGE|2CURVE THEN STRAIGHT|2CURVED CROSS SMALL|4MEDIUM|1ROTATION-WALLPLANE SINGLE|2DOUBLE",
    "2ALTERNATE|1MOVEMENT-WALLPLANE SHAKING|2CURVE HITTING FRONT WALL|2HUMP HITTING FRONT WALL",
    "2LOOP HITTING FRONT WALL|2WAVE HITTING FRONT WALL",
    "1ROTATION-WALLPLANE SINGLE HITTING FRONT WALL|2DOUBLE HITTING FRONT WALL",
    "2ALTERNATING HITTING FRONT WALL|1MOVEMENT-WALLPLANE CURVE HITTING CHEST|2HUMP HITTING CHEST",
    "2LOOP HITTING CHEST|2WAVE HITTING CHEST|1ROTATION-WALLPLANE SINGLE HITTING CHEST",
    "2DOUBLE HITTING CHEST|2ALTERNATING HITTING CHEST",
    "1MOVEMENT-WALLPLANE WAVE DIAGONAL PATH SMALL|5MEDIUM|5LARGE",
    "1MOVEMENT-FLOORPLANE CURVE HITTING CEILING SMALL|5LARGE|2HUMP HITTING CEILING SMALL DOUBLE",
    "5LARGE DOUBLE|5SMALL TRIPLE|5LARGE TRIPLE|2LOOP HITTING CEILING SMALL SINGLE|5LARGE SINGLE",
    "5SMALL DOUBLE|5LARGE DOUBLE|2WAVE HITTING CEILING SMALL|5LARGE",
    "1ROTATION-FLOORPLANE SINGLE HITTING CEILING|2DOUBLE HITTING CEILING",
    "2ALTERNATING HITTING CEILING|1MOVEMENT-FLOORPLANE CURVE HITTING FLOOR SMALL|5LARGE",
    "2HUMP HITTING FLOOR SMALL DOUBLE|5LARGE DOUBLE|5TRIPLE SMALL TRIPLE|6LARGE TRIPLE",
    "2LOOP HITTING FLOOR SMALL SINGLE|5LARGE SINGLE|5SMALL DOUBLE|5LARGE DOUBLE",
    "2WAVE HITTING FLOOR SMALL|5LARGE|1ROTATION-FLOORPLANE SINGLE HITTING FLOOR",
    "2DOUBLE HITTING FLOOR|2ALTERNATING HITTING FLOOR|1MOVEMENT-FLOORPLANE CURVE SMALL|3MEDIUM",
    "3LARGE|3LARGEST|3COMBINED|2HUMP SMALL|2LOOP SMALL|2WAVE SNAKE|3SMALL|3LARGE",
    "1ROTATION-FLOORPLANE SINGLE|2DOUBLE|2ALTERNATING|1MOVEMENT-FLOORPLANE SHAKING PARALLEL",
    "1MOVEMENT-WALLPLANE ARM CIRCLE SMALL SINGLE|4MEDIUM SINGLE|4SMALL DOUBLE|4MEDIUM DOUBLE",
    "1MOVEMENT-FLOORPLANE ARM CIRCLE HITTING WALL SMALL SINGLE|6MEDIUM SINGLE|6LARGE SINGLE",
    "6SMALL DOUBLE|6MEDIUM DOUBLE|6LARGE DOUBLE|1MOVEMENT-WALLPLANE WRIST CIRCLE FRONT SINGLE",
    "5DOUBLE|1MOVEMENT-FLOORPLANE WRIST CIRCLE HITTING WALL SINGLE|6DOUBLE",
    "1MOVEMENT-WALLPLANE FINGER CIRCLES SINGLE|4DOUBLE",
    "1MOVEMENT-FLOORPLANE FINGER CIRCLES HITTING WALL SINGLE|6DOUBLE|1DYNAMIC ARROWHEAD SMALL",
    "3LARGE|2FAST|2SLOW|2TENSE|2RELAXED|2SIMULTANEOUS|3ALTERNATING|2EVERY OTHER TIME|2GRADUAL",
    "1HEAD|2RIM|2MOVEMENT-WALLPLANE STRAIGHT|3TILT|2MOVEMENT-FLOORPLANE STRAIGHT",
    "2MOVEMENT-WALLPLANE CURVE|2MOVEMENT-FLOORPLANE CURVE|2MOVEMENT CIRCLE",
    "1FACE DIRECTION POSITION NOSE FORWARD TILTING|5UP OR DOWN|8TILTING|1EYEBROWS STRAIGHT UP",
    "3NEUTRAL|3DOWN|1DREAMY EYEBROWS NEUTRAL DOWN|3DOWN NEUTRAL|3UP NEUTRAL|3NEUTRAL UP",
    "1FOREHEAD NEUTRAL|2CONTACT|2WRINKLED|1EYES OPEN|2SQUEEZED|2CLOSED|1EYE BLINK SINGLE",
    "3MULTIPLE|1EYES HALF OPEN|2WIDE OPEN|2HALF CLOSED|2WIDENING MOVEMENT|1EYE WINK|1EYELASHES UP",
    "2DOWN|2FLUTTERING|1EYEGAZE-WALLPLANE STRAIGHT|3DOUBLE|3ALTERNATING",
    "1EYEGAZE-FLOORPLANE STRAIGHT|3DOUBLE|3ALTERNATING|1EYEGAZE-WALLPLANE CURVED",
    "1EYEGAZE-FLOORPLANE CURVED|1EYEGAZE-WALLPLANE CIRCLING|1CHEEKS PUFFED|2NEUTRAL|2SUCKED",
    "1TENSE CHEEKS HIGH|3MIDDLE|3LOW|1EARS|1NOSE NEUTRAL|2CONTACT|2WRINKLES|2WIGGLES",
    "1AIR BLOWING OUT|2SUCKING IN|2BLOW SMALL ROTATIONS|2SUCK SMALL ROTATIONS|1BREATH INHALE",
    "2EXHALE|1MOUTH CLOSED NEUTRAL|3FORWARD|3CONTACT|2SMILE|3WRINKLED|3OPEN|2FROWN|3WRINKLED",
    "3OPEN|2OPEN CIRCLE|3FORWARD|3WRINKLED|3OVAL|4WRINKLED|4YAWN|3RECTANGLE|4WRINKLED|4YAWN|2KISS",
    "3FORWARD|3WRINKLED|2TENSE|3FORWARD|3SUCKED|1LIPS PRESSED TOGETHER|1LIP LOWER OVER UPPER",
    "2UPPER OVER LOWER|1MOUTH CORNERS|2WRINKLES SINGLE|3DOUBLE|1TONGUE STICKING OUT FAR",
    "2LICKING LIPS|2TIP BETWEEN LIPS|3TOUCHING INSIDE MOUTH|2INSIDE MOUTH RELAXED",
    "2MOVES AGAINST CHEEK|2CENTRE STICKING OUT|3INSIDE MOUTH|1TEETH|2MOVEMENT|2ON TONGUE",
    "4MOVEMENT|3LIPS|4MOVEMENT|2BITE LIPS|1MOVEMENT-WALLPLANE JAW|1MOVEMENT-FLOORPLANE JAW|1NECK",
    "1HAIR|1EXCITEMENT|1SHOULDER HIP SPINE|3POSITIONS|1WALLPLANE SHOULDER HIP MOVE",
    "1FLOORPLANE SHOULDER HIP MOVE|1SHOULDER TILTING FROM WAIST|1TORSO-WALLPLANE STRAIGHT STRETCH",
    "2CURVED BEND|1TORSO-FLOORPLANE TWISTING|1UPPER BODY TILTING FROM HIP JOINTS",
    "1LIMB COMBINATION|2LENGTH-1|2LENGTH-2|2LENGTH-3|2LENGTH-4|2LENGTH-5|2LENGTH-6|2LENGTH-7",
    "1FINGER|1LOCATION-WALLPLANE SPACE|1LOCATION-FLOORPLANE SPACE|1LOCATION HEIGHT|2WIDTH|2DEPTH",
    "2HEAD NECK|2TORSO|2LIMBS DIGITS|1COMMA|1FULL STOP|1SEMICOLON|1COLON|1PARENTHESIS||||||||||||",
    "|||1FILL MODIFIER-2|2MODIFIER-3|2MODIFIER-4|2MODIFIER-5|2MODIFIER-6||1ROTATION MODIFIER-2",
    "2MODIFIER-3|2MODIFIER-4|2MODIFIER-5|2MODIFIER-6|2MODIFIER-7|2MODIFIER-8|2MODIFIER-9",
    "2MODIFIER-10|2MODIFIER-11|2MODIFIER-12|2MODIFIER-13|2MODIFIER-14|2MODIFIER-15|2MODIFIER-16"]⟩,
  ⟨0x1df00, [
    "0LATIN SMALL LETTER FENG DIGRAPH WITH TRILL|3REVERSED SCRIPT G",
    "1LETTER SMALL CAPITAL TURNED G|1SMALL LETTER REVERSED K|1LETTER SMALL CAPITAL L WITH BELT",
    "1SMALL LETTER LEZH WITH RETROFLEX HOOK|3TURNED Y WITH BELT|3REVERSED ENG",
    "3TURNED R WITH LONG LEG AND RETROFLEX HOOK|3T WITH HOOK AND RETROFLEX HOOK",
    "1LETTER RETROFLEX CLICK WITH RETROFLEX HOOK|1SMALL LETTER ESH WITH DOUBLE BAR|7AND CURL",
    "3TURNED T WITH CURL|1LETTER INVERTED GLOTTAL STOP WITH CURL|2STRETCHED C WITH CURL",
    "2SMALL CAPITAL TURNED K|1SMALL LETTER L WITH FISHHOOK|3DEZH DIGRAPH WITH PALATAL HOOK",
    "3L WITH BELT AND PALATAL HOOK|3ENG WITH PALATAL HOOK|3TURNED R WITH PALATAL HOOK",
    "3R WITH FISHHOOK AND PALATAL HOOK|3TESH DIGRAPH WITH PALATAL HOOK|3EZH WITH PALATAL HOOK",
    "3DEZH DIGRAPH WITH RETROFLEX HOOK|3I WITH STROKE AND RETROFLEX HOOK|3O WITH RETROFLEX HOOK",
    "3TESH DIGRAPH WITH RETROFLEX HOOK|3C WITH RETROFLEX HOOK|3S WITH CURL"]⟩,
  ⟨0x1e000, [
    "0COMBINING GLAGOLITIC LETTER AZU|3BUKY|3VEDE|3GLAGOLI|3DOBRO|3YESTU|3ZHIVETE||3ZEMLJA|3IZHE",
    "3INITIAL IZHE|3I|3DJERVI|3KAKO|3LJUDIJE|3MYSLITE|3NASHI|3ONU|3POKOJI|3RITSI|3SLOVO|3TVRIDO",
    "3UKU|3FRITU|3HERU|||3SHTA|3TSI|3CHRIVI|3SHA|3YERU|3YERI|3YATI||3YU|3SMALL YUS||3YO",
    "3IOTATED SMALL YUS|3BIG YUS|3IOTATED BIG YUS|3FITA"]⟩,
  ⟨0x1e100, [
    "0NYIAKENG PUACHUE HMONG LETTER MA|4TSA|4NTA|4TA|4HA|4NA|4XA|4NKA|4CA|4LA|4SA|4ZA|4NCA|4NTSA",
    "4KA|4DA|4NYA|4NRA|4VA|4NTXA|4TXA|4FA|4RA|4QA|4YA|4NQA|4PA|4XYA|4NPA|4DLA|4NPLA|4HAH|4MLA",
    "4PLA|4GA|4RRA|4A|4AA|4I|4U|4O|4OO|4E|4EE|4W||||3TONE-B|3TONE-M|3TONE-J|3TONE-V|3TONE-S",
    "3TONE-G|3TONE-D|3SIGN FOR PERSON|5THING|5LOCATION|5ANIMAL|5INVERTEBRATE|4XW XW",
    "3SYLLABLE LENGTHENER|||3DIGIT ZERO|4ONE|4TWO|4THREE|4FOUR|4FIVE|4SIX|4SEVEN|4EIGHT|4NINE||||",
    "3LOGOGRAM NYAJ|3CIRCLED CA"]⟩,
  ⟨0x1e290, [
    "0TOTO LETTER PA|2BA|2TA|2DA|2KA|2GA|2MA|2NA|2NGA|2SA|2CHA|2YA|2WA|2JA|2HA|2RA|2LA|2I",
    "2BREATHY I|2IU|2BREATHY IU|2U|2E|2BREATHY E|2EO|2BREATHY EO|2O|2AE|2BREATHY AE|2A",
    "1SIGN RISING TONE"]⟩,
  ⟨0x1e2c0, [
    "0WANCHO LETTER AA|2A|2BA|2CA|2DA|2GA|2YA|2PHA|2LA|2NA|2PA|2TA|2THA|2FA|2SA|2SHA|2JA|2ZA|2WA",
    "2VA|2KA|2O|2AU|2RA|2MA|2KHA|2HA|2E|2I|2NGA|2U|2LLHA|2TSA|2TRA|2ONG|2AANG|2ANG|2ING|2ON|2EN",
    "2AAN|2NYA|2UEN|2YIH|1TONE TUP|2TUPNI|2KOI|2KOINI|1DIGIT ZERO|2ONE|2TWO|2THREE|2FOUR|2FIVE",
    "2SIX|2SEVEN|2EIGHT|2NINE||||||1NGUN SIGN"]⟩,
  ⟨0x1e7e0, [
    "0ETHIOPIC SYLLABLE HHYA|2HHYU|2HHYI|2HHYAA|2HHYEE|2HHYE|2HHYO||2GURAGE HHWA|2HHWI|2HHWEE",
    "2HHWE||2GURAGE MWI|3MWEE||3QWI|3QWEE|3QWE|3BWI|3BWEE|3KWI|3KWEE|3KWE|3GWI|3GWEE|3GWE|3FWI",
    "3FWEE|3PWI|3PWEE||0MENDE KIKAKUI SYLLABLE M001 KI|3M002 KA|3M003 KU|3M065 KEE|3M095 KE",
    "3M076 KOO|3M048 KO|3M179 KUA|3M004 WI|3M005 WA|3M006 WU|3M126 WEE|3M118 WE|3M114 WOO",
    "3M045 WO|3M194 WUI|3M143 WEI|3M061 WVI|3M049 WVA|3M139 WVE|3M007 MIN|3M008 MAN|3M009 MUN",
    "3M059 MEN|3M094 MON|3M154 MUAN|3M189 MUEN|3M010 BI|3M011 BA|3M012 BU|3M150 BEE|3M097 BE",
    "3M103 BOO|3M138 BO|3M013 I|3M014 A|3M015 U|3M163 EE|3M100 E|3M165 OO|3M147 O|3M137 EI",
    "3M131 IN|3M135 IN|3M195 AN|3M178 EN|3M019 SI|3M020 SA|3M021 SU|3M162 SEE|3M116 SE|3M136 SOO",
    "3M079 SO|3M196 SIA|3M025 LI|3M026 LA|3M027 LU|3M084 LEE|3M073 LE|3M054 LOO|3M153 LO",
    "3M110 LONG LE|3M016 DI|3M017 DA|3M018 DU|3M089 DEE|3M180 DOO|3M181 DO|3M022 TI|3M023 TA",
    "3M024 TU|3M091 TEE|3M055 TE|3M104 TOO|3M069 TO|3M028 JI|3M029 JA|3M030 JU|3M157 JEE|3M113 JE",
    "3M160 JOO|3M063 JO|3M175 LONG JO|3M031 YI|3M032 YA|3M033 YU|3M109 YEE|3M080 YE|3M141 YOO",
    "3M121 YO|3M034 FI|3M035 FA|3M036 FU|3M078 FEE|3M075 FE|3M133 FOO|3M088 FO|3M197 FUA",
    "3M101 FAN|3M037 NIN|3M038 NAN|3M039 NUN|3M117 NEN|3M169 NON|3M176 HI|3M041 HA|3M186 HU",
    "3M040 HEE|3M096 HE|3M042 HOO|3M140 HO|3M083 HEEI|3M128 HOOU|3M053 HIN|3M130 HAN|3M087 HUN",
    "3M052 HEN|3M193 HON|3M046 HUAN|3M090 NGGI|3M043 NGGA|3M082 NGGU|3M115 NGGEE|3M146 NGGE",
    "3M156 NGGOO|3M120 NGGO|3M159 NGGAA|3M127 NGGUA|3M086 LONG NGGE|3M106 LONG NGGOO",
    "3M183 LONG NGGO|3M155 GI|3M111 GA|3M168 GU|3M190 GEE|3M166 GUEI|3M167 GUAN|3M184 NGEN",
    "3M057 NGON|3M177 NGUAN|3M068 PI|3M099 PA|3M050 PU|3M081 PEE|3M051 PE|3M102 POO|3M066 PO",
    "3M145 MBI|3M062 MBA|3M122 MBU|3M047 MBEE|3M188 MBEE|3M072 MBE|3M172 MBOO|3M174 MBO",
    "3M187 MBUU|3M161 LONG MBE|3M105 LONG MBOO|3M142 LONG MBO|3M132 KPI|3M092 KPA|3M074 KPU",
    "3M044 KPEE|3M108 KPE|3M112 KPOO|3M158 KPO|3M124 GBI|3M056 GBA|3M148 GBU|3M093 GBEE|3M107 GBE",
    "3M071 GBOO|3M070 GBO|3M171 RA|3M123 NDI|3M129 NDA|3M125 NDU|3M191 NDEE|3M119 NDE|3M067 NDOO",
    "3M064 NDO|3M152 NJA|3M192 NJU|3M149 NJEE|3M134 NJOO|3M182 VI|3M185 VA|3M151 VU|3M173 VEE",
    "3M085 VE|3M144 VOO|3M077 VO|3M164 NYIN|3M058 NYAN|3M170 NYUN|3M098 NYEN|3M060 NYON||",
    "2DIGIT ONE|3TWO|3THREE|3FOUR|3FIVE|3SIX|3SEVEN|3EIGHT|3NINE|2COMBINING NUMBER TEENS|4TENS",
    "4HUNDREDS|4THOUSANDS|4TEN THOUSANDS|4HUNDRED THOUSANDS|4MILLIONS"]⟩,
  ⟨0x1e900, [
    "0ADLAM CAPITAL LETTER ALIF|3DAALI|3LAAM|3MIIM|3BA|3SINNYIIYHE|3PE|3BHE|3RA|3E|3FA|3I|3O|3DHA",
    "3YHE|3WAW|3NUN|3KAF|3YA|3U|3JIIM|3CHI|3HA|3QAAF|3GA|3NYA|3TU|3NHA|3VA|3KHA|3GBE|3ZAL|3KPO",
    "3SHA|1SMALL LETTER ALIF|3DAALI|3LAAM|3MIIM|3BA|3SINNYIIYHE|3PE|3BHE|3RA|3E|3FA|3I|3O|3DHA",
    "3YHE|3WAW|3NUN|3KAF|3YA|3U|3JIIM|3CHI|3HA|3QAAF|3GA|3NYA|3TU|3NHA|3VA|3KHA|3GBE|3ZAL|3KPO",
    "3SHA|1ALIF LENGTHENER|1VOWEL LENGTHENER|1GEMINATION MARK|1HAMZA|1CONSONANT MODIFIER",
    "1GEMINATE CONSONANT MODIFIER|1NUKTA|1NASALIZATION MARK|||||1DIGIT ZERO|2ONE|2TWO|2THREE",
    "2FOUR|2FIVE|2SIX|2SEVEN|2EIGHT|2NINE|||||1INITIAL EXCLAMATION MARK|2QUESTION MARK"]⟩,
  ⟨0x1ec71, [
    "0INDIC SIYAQ NUMBER ONE|3TWO|3THREE|3FOUR|3FIVE|3SIX|3SEVEN|3EIGHT|3NINE|3TEN|3TWENTY",
    "3THIRTY|3FORTY|3FIFTY|3SIXTY|3SEVENTY|3EIGHTY|3NINETY|3ONE HUNDRED|3TWO HUNDRED",
    "3THREE HUNDRED|3FOUR HUNDRED|3FIVE HUNDRED|3SIX HUNDRED|3SEVEN HUNDRED|3EIGHT HUNDRED",
    "3NINE HUNDRED|3ONE THOUSAND|3TWO THOUSAND|3THREE THOUSAND|3FOUR THOUSAND|3FIVE THOUSAND",
    "3SIX THOUSAND|3SEVEN THOUSAND|3EIGHT THOUSAND|3NINE THOUSAND|3TEN THOUSAND|3TWENTY THOUSAND",
    "3THIRTY THOUSAND|3FORTY THOUSAND|3FIFTY THOUSAND|3SIXTY THOUSAND|3SEVENTY THOUSAND",
    "3EIGHTY THOUSAND|3NINETY THOUSAND|3LAKH|3LAKHAN|2LAKH MARK|2NUMBER KAROR|3KARORAN",
    "3PREFIXED ONE|4TWO|4THREE|4FOUR|4FIVE|4SIX|4SEVEN|4EIGHT|4NINE|2PLACEHOLDER",
    "2FRACTION ONE QUARTER|4HALF|3THREE QUARTERS|2RUPEE MARK|2NUMBER ALTERNATE ONE|4TWO",
    "4TEN THOUSAND|2ALTERNATE LAKH MARK"]⟩,
  ⟨0x1ed01, [
    "0OTTOMAN SIYAQ NUMBER ONE|3TWO|3THREE|3FOUR|3FIVE|3SIX|3SEVEN|3EIGHT|3NINE|3TEN|3TWENTY",
    "3THIRTY|3FORTY|3FIFTY|3SIXTY|3SEVENTY|3EIGHTY|3NINETY|3ONE HUNDRED|3TWO HUNDRED",
    "3THREE HUNDRED|3FOUR HUNDRED|3FIVE HUNDRED|3SIX HUNDRED|3SEVEN HUNDRED|3EIGHT HUNDRED",
    "3NINE HUNDRED|3ONE THOUSAND|3TWO THOUSAND|3THREE THOUSAND|3FOUR THOUSAND|3FIVE THOUSAND",
    "3SIX THOUSAND|3SEVEN THOUSAND|3EIGHT THOUSAND|3NINE THOUSAND|3TEN THOUSAND|3TWENTY THOUSAND",
    "3THIRTY THOUSAND|3FORTY THOUSAND|3FIFTY THOUSAND|3SIXTY THOUSAND|3SEVENTY THOUSAND",
    "3EIGHTY THOUSAND|3NINETY THOUSAND|2MARRATAN|2ALTERNATE NUMBER TWO|4THREE|4FOUR|4FIVE|4SIX",
    "4SEVEN|4EIGHT|4NINE|4TEN|4FOUR HUNDRED|4SIX HUNDRED|4TWO THOUSAND|4TEN THOUSAND",
    "2FRACTION ONE HALF|4SIXTH"]⟩,
  ⟨0x1ee00, [
    "0ARABIC MATHEMATICAL ALEF|2BEH|2JEEM|2DAL||2WAW|2ZAIN|2HAH|2TAH|2YEH|2KAF|2LAM|2MEEM|2NOON",
    "2SEEN|2AIN|2FEH|2SAD|2QAF|2REH|2SHEEN|2TEH|2THEH|2KHAH|2THAL|2DAD|2ZAH|2GHAIN|2DOTLESS BEH",
    "3NOON|3FEH|3QAF||2INITIAL BEH|3JEEM||3HEH|||3HAH||3YEH|3KAF|3LAM|3MEEM|3NOON|3SEEN|3AIN|3FEH",
    "3SAD|3QAF||3SHEEN|3TEH|3THEH|3KHAH||3DAD||3GHAIN|||||||2TAILED JEEM|||||3HAH||3YEH||3LAM|",
    "3NOON|3SEEN|3AIN||3SAD|3QAF||3SHEEN|||3KHAH||3DAD||3GHAIN||3DOTLESS NOON||4QAF|",
    "2STRETCHED BEH|3JEEM||3HEH|||3HAH|3TAH|3YEH|3KAF||3MEEM|3NOON|3SEEN|3AIN|3FEH|3SAD|3QAF|",
    "3SHEEN|3TEH|3THEH|3KHAH||3DAD|3ZAH|3GHAIN|3DOTLESS BEH||4FEH||2LOOPED ALEF|3BEH|3JEEM|3DAL",
    "3HEH|3WAW|3ZAIN|3HAH|3TAH|3YEH||3LAM|3MEEM|3NOON|3SEEN|3AIN|3FEH|3SAD|3QAF|3REH|3SHEEN|3TEH",
    "3THEH|3KHAH|3THAL|3DAD|3ZAH|3GHAIN||||||2DOUBLE-STRUCK BEH|3JEEM|3DAL||3WAW|3ZAIN|3HAH|3TAH",
    "3YEH||3LAM|3MEEM|3NOON|3SEEN|3AIN|3FEH|3SAD|3QAF|3REH|3SHEEN|3TEH|3THEH|3KHAH|3THAL|3DAD",
    "3ZAH|3GHAIN"]⟩,
  ⟨0x1eef0, [
    "0ARABIC MATHEMATICAL OPERATOR MEEM WITH HAH WITH TATWEEL|3HAH WITH DAL"]⟩]

end JsonPatch.Text.Name
