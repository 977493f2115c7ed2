import JsonPatch.Text.Name.Run

/-! # Character names from U+FB50 on -/

namespace JsonPatch.Text.Name

/-- The names of the characters from U+FB50 to U+100FA that have one of their own. -/
def fromFB50 : List Run := [
  ⟨0xfb50, [
    "0ARABIC LETTER ALEF WASLA ISOLATED FORM|4FINAL FORM|2BEEH ISOLATED FORM|3FINAL FORM",
    "3INITIAL FORM|3MEDIAL FORM|2PEH ISOLATED FORM|3FINAL FORM|3INITIAL FORM|3MEDIAL FORM",
    "2BEHEH ISOLATED FORM|3FINAL FORM|3INITIAL FORM|3MEDIAL FORM|2TTEHEH ISOLATED FORM",
    "3FINAL FORM|3INITIAL FORM|3MEDIAL FORM|2TEHEH ISOLATED FORM|3FINAL FORM|3INITIAL FORM",
    "3MEDIAL FORM|2TTEH ISOLATED FORM|3FINAL FORM|3INITIAL FORM|3MEDIAL FORM|2VEH ISOLATED FORM",
    "3FINAL FORM|3INITIAL FORM|3MEDIAL FORM|2PEHEH ISOLATED FORM|3FINAL FORM|3INITIAL FORM",
    "3MEDIAL FORM|2DYEH ISOLATED FORM|3FINAL FORM|3INITIAL FORM|3MEDIAL FORM|2NYEH ISOLATED FORM",
    "3FINAL FORM|3INITIAL FORM|3MEDIAL FORM|2TCHEH ISOLATED FORM|3FINAL FORM|3INITIAL FORM",
    "3MEDIAL FORM|2TCHEHEH ISOLATED FORM|3FINAL FORM|3INITIAL FORM|3MEDIAL FORM",
    "2DDAHAL ISOLATED FORM|3FINAL FORM|2DAHAL ISOLATED FORM|3FINAL FORM|2DUL ISOLATED FORM",
    "3FINAL FORM|2DDAL ISOLATED FORM|3FINAL FORM|2JEH ISOLATED FORM|3FINAL FORM",
    "2RREH ISOLATED FORM|3FINAL FORM|2KEHEH ISOLATED FORM|3FINAL FORM|3INITIAL FORM|3MEDIAL FORM",
    "2GAF ISOLATED FORM|3FINAL FORM|3INITIAL FORM|3MEDIAL FORM|2GUEH ISOLATED FORM|3FINAL FORM",
    "3INITIAL FORM|3MEDIAL FORM|2NGOEH ISOLATED FORM|3FINAL FORM|3INITIAL FORM|3MEDIAL FORM",
    "2NOON GHUNNA ISOLATED FORM|4FINAL FORM|2RNOON ISOLATED FORM|3FINAL FORM|3INITIAL FORM",
    "3MEDIAL FORM|2HEH WITH YEH ABOVE ISOLATED FORM|6FINAL FORM|3GOAL ISOLATED FORM|4FINAL FORM",
    "4INITIAL FORM|4MEDIAL FORM|3DOACHASHMEE ISOLATED FORM|4FINAL FORM|4INITIAL FORM|4MEDIAL FORM",
    "2YEH BARREE ISOLATED FORM|4FINAL FORM|4WITH HAMZA ABOVE ISOLATED FORM|7FINAL FORM",
    "1SYMBOL DOT ABOVE|3BELOW|2TWO DOTS ABOVE|4BELOW|2THREE DOTS ABOVE|4BELOW",
    "4POINTING DOWNWARDS ABOVE|6BELOW|2FOUR DOTS ABOVE|4BELOW|2DOUBLE VERTICAL BAR BELOW",
    "2TWO DOTS VERTICALLY ABOVE|5BELOW|2RING|2SMALL TAH ABOVE|4BELOW|2WASLA ABOVE"]⟩,
  ⟨0xfbd3, [
    "0ARABIC LETTER NG ISOLATED FORM|3FINAL FORM|3INITIAL FORM|3MEDIAL FORM|2U ISOLATED FORM",
    "3FINAL FORM|2OE ISOLATED FORM|3FINAL FORM|2YU ISOLATED FORM|3FINAL FORM",
    "2U WITH HAMZA ABOVE ISOLATED FORM|2VE ISOLATED FORM|3FINAL FORM|2KIRGHIZ OE ISOLATED FORM",
    "4FINAL FORM|3YU ISOLATED FORM|4FINAL FORM|2E ISOLATED FORM|3FINAL FORM|3INITIAL FORM",
    "3MEDIAL FORM|2UIGHUR KAZAKH KIRGHIZ ALEF MAKSURA INITIAL FORM|7MEDIAL FORM",
    "1LIGATURE YEH WITH HAMZA ABOVE WITH ALEF ISOLATED FORM|8FINAL FORM|7AE ISOLATED FORM",
    "8FINAL FORM|7WAW ISOLATED FORM|8FINAL FORM|7U ISOLATED FORM|8FINAL FORM|7OE ISOLATED FORM",
    "8FINAL FORM|7YU ISOLATED FORM|8FINAL FORM|7E ISOLATED FORM|8FINAL FORM|8INITIAL FORM",
    "2UIGHUR KIRGHIZ YEH WITH HAMZA ABOVE WITH ALEF MAKSURA ISOLATED FORM|BFINAL FORM",
    "BINITIAL FORM|1LETTER FARSI YEH ISOLATED FORM|4FINAL FORM|4INITIAL FORM|4MEDIAL FORM",
    "1LIGATURE YEH WITH HAMZA ABOVE WITH JEEM ISOLATED FORM|7HAH ISOLATED FORM",
    "7MEEM ISOLATED FORM|7ALEF MAKSURA ISOLATED FORM|7YEH ISOLATED FORM",
    "2BEH WITH JEEM ISOLATED FORM|4HAH ISOLATED FORM|4KHAH ISOLATED FORM|4MEEM ISOLATED FORM",
    "4ALEF MAKSURA ISOLATED FORM|4YEH ISOLATED FORM|2TEH WITH JEEM ISOLATED FORM",
    "4HAH ISOLATED FORM|4KHAH ISOLATED FORM|4MEEM ISOLATED FORM|4ALEF MAKSURA ISOLATED FORM",
    "4YEH ISOLATED FORM|2THEH WITH JEEM ISOLATED FORM|4MEEM ISOLATED FORM",
    "4ALEF MAKSURA ISOLATED FORM|4YEH ISOLATED FORM|2JEEM WITH HAH ISOLATED FORM",
    "4MEEM ISOLATED FORM|2HAH WITH JEEM ISOLATED FORM|4MEEM ISOLATED FORM",
    "2KHAH WITH JEEM ISOLATED FORM|4HAH ISOLATED FORM|4MEEM ISOLATED FORM",
    "2SEEN WITH JEEM ISOLATED FORM|4HAH ISOLATED FORM|4KHAH ISOLATED FORM|4MEEM ISOLATED FORM",
    "2SAD WITH HAH ISOLATED FORM|4MEEM ISOLATED FORM|2DAD WITH JEEM ISOLATED FORM",
    "4HAH ISOLATED FORM|4KHAH ISOLATED FORM|4MEEM ISOLATED FORM|2TAH WITH HAH ISOLATED FORM",
    "4MEEM ISOLATED FORM|2ZAH WITH MEEM ISOLATED FORM|2AIN WITH JEEM ISOLATED FORM",
    "4MEEM ISOLATED FORM|2GHAIN WITH JEEM ISOLATED FORM|4MEEM ISOLATED FORM",
    "2FEH WITH JEEM ISOLATED FORM|4HAH ISOLATED FORM|4KHAH ISOLATED FORM|4MEEM ISOLATED FORM",
    "4ALEF MAKSURA ISOLATED FORM|4YEH ISOLATED FORM|2QAF WITH HAH ISOLATED FORM",
    "4MEEM ISOLATED FORM|4ALEF MAKSURA ISOLATED FORM|4YEH ISOLATED FORM",
    "2KAF WITH ALEF ISOLATED FORM|4JEEM ISOLATED FORM|4HAH ISOLATED FORM|4KHAH ISOLATED FORM",
    "4LAM ISOLATED FORM|4MEEM ISOLATED FORM|4ALEF MAKSURA ISOLATED FORM|4YEH ISOLATED FORM",
    "2LAM WITH JEEM ISOLATED FORM|4HAH ISOLATED FORM|4KHAH ISOLATED FORM|4MEEM ISOLATED FORM",
    "4ALEF MAKSURA ISOLATED FORM|4YEH ISOLATED FORM|2MEEM WITH JEEM ISOLATED FORM",
    "4HAH ISOLATED FORM|4KHAH ISOLATED FORM|4MEEM ISOLATED FORM|4ALEF MAKSURA ISOLATED FORM",
    "4YEH ISOLATED FORM|2NOON WITH JEEM ISOLATED FORM|4HAH ISOLATED FORM|4KHAH ISOLATED FORM",
    "4MEEM ISOLATED FORM|4ALEF MAKSURA ISOLATED FORM|4YEH ISOLATED FORM",
    "2HEH WITH JEEM ISOLATED FORM|4MEEM ISOLATED FORM|4ALEF MAKSURA ISOLATED FORM",
    "4YEH ISOLATED FORM|2YEH WITH JEEM ISOLATED FORM|4HAH ISOLATED FORM|4KHAH ISOLATED FORM",
    "4MEEM ISOLATED FORM|4ALEF MAKSURA ISOLATED FORM|4YEH ISOLATED FORM",
    "2THAL WITH SUPERSCRIPT ALEF ISOLATED FORM|2REH WITH SUPERSCRIPT ALEF ISOLATED FORM",
    "2ALEF MAKSURA WITH SUPERSCRIPT ALEF ISOLATED FORM|2SHADDA WITH DAMMATAN ISOLATED FORM",
    "4KASRATAN ISOLATED FORM|4FATHA ISOLATED FORM|4DAMMA ISOLATED FORM|4KASRA ISOLATED FORM",
    "4SUPERSCRIPT ALEF ISOLATED FORM|2YEH WITH HAMZA ABOVE WITH REH FINAL FORM|7ZAIN FINAL FORM",
    "7MEEM FINAL FORM|7NOON FINAL FORM|7ALEF MAKSURA FINAL FORM|7YEH FINAL FORM",
    "2BEH WITH REH FINAL FORM|4ZAIN FINAL FORM|4MEEM FINAL FORM|4NOON FINAL FORM",
    "4ALEF MAKSURA FINAL FORM|4YEH FINAL FORM|2TEH WITH REH FINAL FORM|4ZAIN FINAL FORM",
    "4MEEM FINAL FORM|4NOON FINAL FORM|4ALEF MAKSURA FINAL FORM|4YEH FINAL FORM",
    "2THEH WITH REH FINAL FORM|4ZAIN FINAL FORM|4MEEM FINAL FORM|4NOON FINAL FORM",
    "4ALEF MAKSURA FINAL FORM|4YEH FINAL FORM|2FEH WITH ALEF MAKSURA FINAL FORM|4YEH FINAL FORM",
    "2QAF WITH ALEF MAKSURA FINAL FORM|4YEH FINAL FORM|2KAF WITH ALEF FINAL FORM|4LAM FINAL FORM",
    "4MEEM FINAL FORM|4ALEF MAKSURA FINAL FORM|4YEH FINAL FORM|2LAM WITH MEEM FINAL FORM",
    "4ALEF MAKSURA FINAL FORM|4YEH FINAL FORM|2MEEM WITH ALEF FINAL FORM|4MEEM FINAL FORM",
    "2NOON WITH REH FINAL FORM|4ZAIN FINAL FORM|4MEEM FINAL FORM|4NOON FINAL FORM",
    "4ALEF MAKSURA FINAL FORM|4YEH FINAL FORM|2ALEF MAKSURA WITH SUPERSCRIPT ALEF FINAL FORM",
    "2YEH WITH REH FINAL FORM|4ZAIN FINAL FORM|4MEEM FINAL FORM|4NOON FINAL FORM",
    "4ALEF MAKSURA FINAL FORM|4YEH FINAL FORM|4HAMZA ABOVE WITH JEEM INITIAL FORM",
    "7HAH INITIAL FORM|7KHAH INITIAL FORM|7MEEM INITIAL FORM|7HEH INITIAL FORM",
    "2BEH WITH JEEM INITIAL FORM|4HAH INITIAL FORM|4KHAH INITIAL FORM|4MEEM INITIAL FORM",
    "4HEH INITIAL FORM|2TEH WITH JEEM INITIAL FORM|4HAH INITIAL FORM|4KHAH INITIAL FORM",
    "4MEEM INITIAL FORM|4HEH INITIAL FORM|2THEH WITH MEEM INITIAL FORM",
    "2JEEM WITH HAH INITIAL FORM|4MEEM INITIAL FORM|2HAH WITH JEEM INITIAL FORM",
    "4MEEM INITIAL FORM|2KHAH WITH JEEM INITIAL FORM|4MEEM INITIAL FORM",
    "2SEEN WITH JEEM INITIAL FORM|4HAH INITIAL FORM|4KHAH INITIAL FORM|4MEEM INITIAL FORM",
    "2SAD WITH HAH INITIAL FORM|4KHAH INITIAL FORM|4MEEM INITIAL FORM|2DAD WITH JEEM INITIAL FORM",
    "4HAH INITIAL FORM|4KHAH INITIAL FORM|4MEEM INITIAL FORM|2TAH WITH HAH INITIAL FORM",
    "2ZAH WITH MEEM INITIAL FORM|2AIN WITH JEEM INITIAL FORM|4MEEM INITIAL FORM",
    "2GHAIN WITH JEEM INITIAL FORM|4MEEM INITIAL FORM|2FEH WITH JEEM INITIAL FORM",
    "4HAH INITIAL FORM|4KHAH INITIAL FORM|4MEEM INITIAL FORM|2QAF WITH HAH INITIAL FORM",
    "4MEEM INITIAL FORM|2KAF WITH JEEM INITIAL FORM|4HAH INITIAL FORM|4KHAH INITIAL FORM",
    "4LAM INITIAL FORM|4MEEM INITIAL FORM|2LAM WITH JEEM INITIAL FORM|4HAH INITIAL FORM",
    "4KHAH INITIAL FORM|4MEEM INITIAL FORM|4HEH INITIAL FORM|2MEEM WITH JEEM INITIAL FORM",
    "4HAH INITIAL FORM|4KHAH INITIAL FORM|4MEEM INITIAL FORM|2NOON WITH JEEM INITIAL FORM",
    "4HAH INITIAL FORM|4KHAH INITIAL FORM|4MEEM INITIAL FORM|4HEH INITIAL FORM",
    "2HEH WITH JEEM INITIAL FORM|4MEEM INITIAL FORM|4SUPERSCRIPT ALEF INITIAL FORM",
    "2YEH WITH JEEM INITIAL FORM|4HAH INITIAL FORM|4KHAH INITIAL FORM|4MEEM INITIAL FORM",
    "4HEH INITIAL FORM|4HAMZA ABOVE WITH MEEM MEDIAL FORM|7HEH MEDIAL FORM",
    "2BEH WITH MEEM MEDIAL FORM|4HEH MEDIAL FORM|2TEH WITH MEEM MEDIAL FORM|4HEH MEDIAL FORM",
    "2THEH WITH MEEM MEDIAL FORM|4HEH MEDIAL FORM|2SEEN WITH MEEM MEDIAL FORM|4HEH MEDIAL FORM",
    "2SHEEN WITH MEEM MEDIAL FORM|4HEH MEDIAL FORM|2KAF WITH LAM MEDIAL FORM|4MEEM MEDIAL FORM",
    "2LAM WITH MEEM MEDIAL FORM|2NOON WITH MEEM MEDIAL FORM|4HEH MEDIAL FORM",
    "2YEH WITH MEEM MEDIAL FORM|4HEH MEDIAL FORM|2SHADDA WITH FATHA MEDIAL FORM",
    "4DAMMA MEDIAL FORM|4KASRA MEDIAL FORM|2TAH WITH ALEF MAKSURA ISOLATED FORM",
    "4YEH ISOLATED FORM|2AIN WITH ALEF MAKSURA ISOLATED FORM|4YEH ISOLATED FORM",
    "2GHAIN WITH ALEF MAKSURA ISOLATED FORM|4YEH ISOLATED FORM",
    "2SEEN WITH ALEF MAKSURA ISOLATED FORM|4YEH ISOLATED FORM",
    "2SHEEN WITH ALEF MAKSURA ISOLATED FORM|4YEH ISOLATED FORM",
    "2HAH WITH ALEF MAKSURA ISOLATED FORM|4YEH ISOLATED FORM",
    "2JEEM WITH ALEF MAKSURA ISOLATED FORM|4YEH ISOLATED FORM",
    "2KHAH WITH ALEF MAKSURA ISOLATED FORM|4YEH ISOLATED FORM",
    "2SAD WITH ALEF MAKSURA ISOLATED FORM|4YEH ISOLATED FORM|2DAD WITH ALEF MAKSURA ISOLATED FORM",
    "4YEH ISOLATED FORM|2SHEEN WITH JEEM ISOLATED FORM|4HAH ISOLATED FORM|4KHAH ISOLATED FORM",
    "4MEEM ISOLATED FORM|4REH ISOLATED FORM|2SEEN WITH REH ISOLATED FORM",
    "2SAD WITH REH ISOLATED FORM|2DAD WITH REH ISOLATED FORM|2TAH WITH ALEF MAKSURA FINAL FORM",
    "4YEH FINAL FORM|2AIN WITH ALEF MAKSURA FINAL FORM|4YEH FINAL FORM",
    "2GHAIN WITH ALEF MAKSURA FINAL FORM|4YEH FINAL FORM|2SEEN WITH ALEF MAKSURA FINAL FORM",
    "4YEH FINAL FORM|2SHEEN WITH ALEF MAKSURA FINAL FORM|4YEH FINAL FORM",
    "2HAH WITH ALEF MAKSURA FINAL FORM|4YEH FINAL FORM|2JEEM WITH ALEF MAKSURA FINAL FORM",
    "4YEH FINAL FORM|2KHAH WITH ALEF MAKSURA FINAL FORM|4YEH FINAL FORM",
    "2SAD WITH ALEF MAKSURA FINAL FORM|4YEH FINAL FORM|2DAD WITH ALEF MAKSURA FINAL FORM",
    "4YEH FINAL FORM|2SHEEN WITH JEEM FINAL FORM|4HAH FINAL FORM|4KHAH FINAL FORM",
    "4MEEM FINAL FORM|4REH FINAL FORM|2SEEN WITH REH FINAL FORM|2SAD WITH REH FINAL FORM",
    "2DAD WITH REH FINAL FORM|2SHEEN WITH JEEM INITIAL FORM|4HAH INITIAL FORM|4KHAH INITIAL FORM",
    "4MEEM INITIAL FORM|2SEEN WITH HEH INITIAL FORM|2SHEEN WITH HEH INITIAL FORM",
    "2TAH WITH MEEM INITIAL FORM|2SEEN WITH JEEM MEDIAL FORM|4HAH MEDIAL FORM|4KHAH MEDIAL FORM",
    "2SHEEN WITH JEEM MEDIAL FORM|4HAH MEDIAL FORM|4KHAH MEDIAL FORM|2TAH WITH MEEM MEDIAL FORM",
    "2ZAH WITH MEEM MEDIAL FORM|2ALEF WITH FATHATAN FINAL FORM|5ISOLATED FORM",
    "0ORNATE LEFT PARENTHESIS|1RIGHT PARENTHESIS|0ARABIC LIGATURE RAHIMAHU ALLAAH",
    "2RADI ALLAAHU ANH|4ANHAA|4ANHUM|4ANHUMAA|4ANHUNNA|2SALLALLAAHU ALAYHI WA-AALIH",
    "2ALAYHI AS-SALAAM|2ALAYHIM AS-SALAAM|2ALAYHIMAA AS-SALAAM|2ALAYHI AS-SALAATU WAS-SALAAM",
    "2QUDDISA SIRRAH|2SALLALLAHU ALAYHI WAAALIHEE WA-SALLAM|2ALAYHAA AS-SALAAM",
    "2TABAARAKA WA-TAAALAA|2RAHIMAHUM ALLAAH|2TEH WITH JEEM WITH MEEM INITIAL FORM",
    "4HAH WITH JEEM FINAL FORM|7INITIAL FORM|6MEEM INITIAL FORM|4KHAH WITH MEEM INITIAL FORM",
    "4MEEM WITH JEEM INITIAL FORM|6HAH INITIAL FORM|6KHAH INITIAL FORM",
    "2JEEM WITH MEEM WITH HAH FINAL FORM|7INITIAL FORM|2HAH WITH MEEM WITH YEH FINAL FORM",
    "6ALEF MAKSURA FINAL FORM|2SEEN WITH HAH WITH JEEM INITIAL FORM|4JEEM WITH HAH INITIAL FORM",
    "6ALEF MAKSURA FINAL FORM|4MEEM WITH HAH FINAL FORM|7INITIAL FORM|6JEEM INITIAL FORM",
    "6MEEM FINAL FORM|7INITIAL FORM|2SAD WITH HAH WITH HAH FINAL FORM|7INITIAL FORM",
    "4MEEM WITH MEEM FINAL FORM|2SHEEN WITH HAH WITH MEEM FINAL FORM|7INITIAL FORM",
    "4JEEM WITH YEH FINAL FORM|4MEEM WITH KHAH FINAL FORM|7INITIAL FORM|6MEEM FINAL FORM",
    "7INITIAL FORM|2DAD WITH HAH WITH ALEF MAKSURA FINAL FORM|4KHAH WITH MEEM FINAL FORM",
    "7INITIAL FORM|2TAH WITH MEEM WITH HAH FINAL FORM|7INITIAL FORM|6MEEM INITIAL FORM",
    "6YEH FINAL FORM|2AIN WITH JEEM WITH MEEM FINAL FORM|4MEEM WITH MEEM FINAL FORM|7INITIAL FORM",
    "6ALEF MAKSURA FINAL FORM|2GHAIN WITH MEEM WITH MEEM FINAL FORM|6YEH FINAL FORM",
    "6ALEF MAKSURA FINAL FORM|2FEH WITH KHAH WITH MEEM FINAL FORM|7INITIAL FORM",
    "2QAF WITH MEEM WITH HAH FINAL FORM|6MEEM FINAL FORM|2LAM WITH HAH WITH MEEM FINAL FORM",
    "6YEH FINAL FORM|6ALEF MAKSURA FINAL FORM|4JEEM WITH JEEM INITIAL FORM|7FINAL FORM",
    "4KHAH WITH MEEM FINAL FORM|7INITIAL FORM|4MEEM WITH HAH FINAL FORM|7INITIAL FORM",
    "2MEEM WITH HAH WITH JEEM INITIAL FORM|6MEEM INITIAL FORM|6YEH FINAL FORM",
    "4JEEM WITH HAH INITIAL FORM|6MEEM INITIAL FORM|4KHAH WITH JEEM INITIAL FORM",
    "6MEEM INITIAL FORM|||4JEEM WITH KHAH INITIAL FORM|2HEH WITH MEEM WITH JEEM INITIAL FORM",
    "6MEEM INITIAL FORM|2NOON WITH HAH WITH MEEM INITIAL FORM|6ALEF MAKSURA FINAL FORM",
    "4JEEM WITH MEEM FINAL FORM|7INITIAL FORM|6ALEF MAKSURA FINAL FORM|4MEEM WITH YEH FINAL FORM",
    "6ALEF MAKSURA FINAL FORM|2YEH WITH MEEM WITH MEEM FINAL FORM|7INITIAL FORM",
    "2BEH WITH KHAH WITH YEH FINAL FORM|2TEH WITH JEEM WITH YEH FINAL FORM",
    "6ALEF MAKSURA FINAL FORM|4KHAH WITH YEH FINAL FORM|6ALEF MAKSURA FINAL FORM",
    "4MEEM WITH YEH FINAL FORM|6ALEF MAKSURA FINAL FORM|2JEEM WITH MEEM WITH YEH FINAL FORM",
    "4HAH WITH ALEF MAKSURA FINAL FORM|4MEEM WITH ALEF MAKSURA FINAL FORM",
    "2SEEN WITH KHAH WITH ALEF MAKSURA FINAL FORM|2SAD WITH HAH WITH YEH FINAL FORM",
    "2SHEEN WITH HAH WITH YEH FINAL FORM|2DAD WITH HAH WITH YEH FINAL FORM",
    "2LAM WITH JEEM WITH YEH FINAL FORM|4MEEM WITH YEH FINAL FORM",
    "2YEH WITH HAH WITH YEH FINAL FORM|4JEEM WITH YEH FINAL FORM|4MEEM WITH YEH FINAL FORM",
    "2MEEM WITH MEEM WITH YEH FINAL FORM|2QAF WITH MEEM WITH YEH FINAL FORM",
    "2NOON WITH HAH WITH YEH FINAL FORM|2QAF WITH MEEM WITH HAH INITIAL FORM",
    "2LAM WITH HAH WITH MEEM INITIAL FORM|2AIN WITH MEEM WITH YEH FINAL FORM",
    "2KAF WITH MEEM WITH YEH FINAL FORM|2NOON WITH JEEM WITH HAH INITIAL FORM",
    "2MEEM WITH KHAH WITH YEH FINAL FORM|2LAM WITH JEEM WITH MEEM INITIAL FORM",
    "2KAF WITH MEEM WITH MEEM FINAL FORM|2LAM WITH JEEM WITH MEEM FINAL FORM",
    "2NOON WITH JEEM WITH HAH FINAL FORM|2JEEM WITH HAH WITH YEH FINAL FORM",
    "2HAH WITH JEEM WITH YEH FINAL FORM|2MEEM WITH JEEM WITH YEH FINAL FORM",
    "2FEH WITH MEEM WITH YEH FINAL FORM|2BEH WITH HAH WITH YEH FINAL FORM",
    "2KAF WITH MEEM WITH MEEM INITIAL FORM|2AIN WITH JEEM WITH MEEM INITIAL FORM",
    "2SAD WITH MEEM WITH MEEM INITIAL FORM|2SEEN WITH KHAH WITH YEH FINAL FORM",
    "2NOON WITH JEEM WITH YEH FINAL FORM||||||||2SALAAMUHU ALAYNAA"]⟩,
  ⟨0xfdf0, [
    "0ARABIC LIGATURE SALLA USED AS KORANIC STOP SIGN ISOLATED FORM",
    "2QALA USED AS KORANIC STOP SIGN ISOLATED FORM|2ALLAH ISOLATED FORM|2AKBAR ISOLATED FORM",
    "2MOHAMMAD ISOLATED FORM|2SALAM ISOLATED FORM|2RASOUL ISOLATED FORM|2ALAYHE ISOLATED FORM",
    "2WASALLAM ISOLATED FORM|2SALLA ISOLATED FORM|2SALLALLAHOU ALAYHE WASALLAM|2JALLAJALALOUHOU",
    "0RIAL SIGN|0ARABIC LIGATURE BISMILLAH AR-RAHMAN AR-RAHEEM|2SUBHAANAHU WA TAAALAA",
    "2AZZA WA JALL|0VARIATION SELECTOR-1|1SELECTOR-2|1SELECTOR-3|1SELECTOR-4|1SELECTOR-5",
    "1SELECTOR-6|1SELECTOR-7|1SELECTOR-8|1SELECTOR-9|1SELECTOR-10|1SELECTOR-11|1SELECTOR-12",
    "1SELECTOR-13|1SELECTOR-14|1SELECTOR-15|1SELECTOR-16|0PRESENTATION FORM FOR VERTICAL COMMA",
    "4IDEOGRAPHIC COMMA|5FULL STOP|4COLON|4SEMICOLON|4EXCLAMATION MARK|4QUESTION MARK",
    "4LEFT WHITE LENTICULAR BRACKET|4RIGHT WHITE LENTICULAR BRAKCET|4HORIZONTAL ELLIPSIS||||||",
    "0COMBINING LIGATURE LEFT HALF|2RIGHT HALF|1DOUBLE TILDE LEFT HALF|3RIGHT HALF",
    "1MACRON LEFT HALF|2RIGHT HALF|1CONJOINING MACRON|1LIGATURE LEFT HALF BELOW|2RIGHT HALF BELOW",
    "1TILDE LEFT HALF BELOW|2RIGHT HALF BELOW|1MACRON LEFT HALF BELOW|2RIGHT HALF BELOW",
    "1CONJOINING MACRON BELOW|1CYRILLIC TITLO LEFT HALF|3RIGHT HALF",
    "0PRESENTATION FORM FOR VERTICAL TWO DOT LEADER|4EM DASH|4EN DASH|4LOW LINE|4WAVY LOW LINE",
    "4LEFT PARENTHESIS|4RIGHT PARENTHESIS|4LEFT CURLY BRACKET|4RIGHT CURLY BRACKET",
    "4LEFT TORTOISE SHELL BRACKET|4RIGHT TORTOISE SHELL BRACKET|4LEFT BLACK LENTICULAR BRACKET",
    "4RIGHT BLACK LENTICULAR BRACKET|4LEFT DOUBLE ANGLE BRACKET|4RIGHT DOUBLE ANGLE BRACKET",
    "4LEFT ANGLE BRACKET|4RIGHT ANGLE BRACKET|4LEFT CORNER BRACKET|4RIGHT CORNER BRACKET",
    "4LEFT WHITE CORNER BRACKET|4RIGHT WHITE CORNER BRACKET|0SESAME DOT|0WHITE SESAME DOT",
    "0PRESENTATION FORM FOR VERTICAL LEFT SQUARE BRACKET|4RIGHT SQUARE BRACKET|0DASHED OVERLINE",
    "0CENTRELINE OVERLINE|0WAVY OVERLINE|0DOUBLE WAVY OVERLINE|0DASHED LOW LINE",
    "0CENTRELINE LOW LINE|0WAVY LOW LINE|0SMALL COMMA|1IDEOGRAPHIC COMMA|1FULL STOP||1SEMICOLON",
    "1COLON|1QUESTION MARK|1EXCLAMATION MARK|1EM DASH|1LEFT PARENTHESIS|1RIGHT PARENTHESIS",
    "1LEFT CURLY BRACKET|1RIGHT CURLY BRACKET|1LEFT TORTOISE SHELL BRACKET",
    "1RIGHT TORTOISE SHELL BRACKET|1NUMBER SIGN|1AMPERSAND|1ASTERISK|1PLUS SIGN|1HYPHEN-MINUS",
    "1LESS-THAN SIGN|1GREATER-THAN SIGN|1EQUALS SIGN||1REVERSE SOLIDUS|1DOLLAR SIGN|1PERCENT SIGN",
    "1COMMERCIAL AT|||||0ARABIC FATHATAN ISOLATED FORM|1TATWEEL WITH FATHATAN ABOVE",
    "1DAMMATAN ISOLATED FORM|1TAIL FRAGMENT|1KASRATAN ISOLATED FORM||1FATHA ISOLATED FORM",
    "2MEDIAL FORM|1DAMMA ISOLATED FORM|2MEDIAL FORM|1KASRA ISOLATED FORM|2MEDIAL FORM",
    "1SHADDA ISOLATED FORM|2MEDIAL FORM|1SUKUN ISOLATED FORM|2MEDIAL FORM",
    "1LETTER HAMZA ISOLATED FORM|2ALEF WITH MADDA ABOVE ISOLATED FORM|6FINAL FORM",
    "4HAMZA ABOVE ISOLATED FORM|6FINAL FORM|2WAW WITH HAMZA ABOVE ISOLATED FORM|6FINAL FORM",
    "2ALEF WITH HAMZA BELOW ISOLATED FORM|6FINAL FORM|2YEH WITH HAMZA ABOVE ISOLATED FORM",
    "6FINAL FORM|6INITIAL FORM|6MEDIAL FORM|2ALEF ISOLATED FORM|3FINAL FORM|2BEH ISOLATED FORM",
    "3FINAL FORM|3INITIAL FORM|3MEDIAL FORM|2TEH MARBUTA ISOLATED FORM|4FINAL FORM|3ISOLATED FORM",
    "3FINAL FORM|3INITIAL FORM|3MEDIAL FORM|2THEH ISOLATED FORM|3FINAL FORM|3INITIAL FORM",
    "3MEDIAL FORM|2JEEM ISOLATED FORM|3FINAL FORM|3INITIAL FORM|3MEDIAL FORM|2HAH ISOLATED FORM",
    "3FINAL FORM|3INITIAL FORM|3MEDIAL FORM|2KHAH ISOLATED FORM|3FINAL FORM|3INITIAL FORM",
    "3MEDIAL FORM|2DAL ISOLATED FORM|3FINAL FORM|2THAL ISOLATED FORM|3FINAL FORM",
    "2REH ISOLATED FORM|3FINAL FORM|2ZAIN ISOLATED FORM|3FINAL FORM|2SEEN ISOLATED FORM",
    "3FINAL FORM|3INITIAL FORM|3MEDIAL FORM|2SHEEN ISOLATED FORM|3FINAL FORM|3INITIAL FORM",
    "3MEDIAL FORM|2SAD ISOLATED FORM|3FINAL FORM|3INITIAL FORM|3MEDIAL FORM|2DAD ISOLATED FORM",
    "3FINAL FORM|3INITIAL FORM|3MEDIAL FORM|2TAH ISOLATED FORM|3FINAL FORM|3INITIAL FORM",
    "3MEDIAL FORM|2ZAH ISOLATED FORM|3FINAL FORM|3INITIAL FORM|3MEDIAL FORM|2AIN ISOLATED FORM",
    "3FINAL FORM|3INITIAL FORM|3MEDIAL FORM|2GHAIN ISOLATED FORM|3FINAL FORM|3INITIAL FORM",
    "3MEDIAL FORM|2FEH ISOLATED FORM|3FINAL FORM|3INITIAL FORM|3MEDIAL FORM|2QAF ISOLATED FORM",
    "3FINAL FORM|3INITIAL FORM|3MEDIAL FORM|2KAF ISOLATED FORM|3FINAL FORM|3INITIAL FORM",
    "3MEDIAL FORM|2LAM ISOLATED FORM|3FINAL FORM|3INITIAL FORM|3MEDIAL FORM|2MEEM ISOLATED FORM",
    "3FINAL FORM|3INITIAL FORM|3MEDIAL FORM|2NOON ISOLATED FORM|3FINAL FORM|3INITIAL FORM",
    "3MEDIAL FORM|2HEH ISOLATED FORM|3FINAL FORM|3INITIAL FORM|3MEDIAL FORM|2WAW ISOLATED FORM",
    "3FINAL FORM|2ALEF MAKSURA ISOLATED FORM|4FINAL FORM|2YEH ISOLATED FORM|3FINAL FORM",
    "3INITIAL FORM|3MEDIAL FORM|1LIGATURE LAM WITH ALEF WITH MADDA ABOVE ISOLATED FORM",
    "8FINAL FORM|6HAMZA ABOVE ISOLATED FORM|8FINAL FORM|7BELOW ISOLATED FORM|8FINAL FORM",
    "5ISOLATED FORM|5FINAL FORM|||0ZERO WIDTH NO-BREAK SPACE||0FULLWIDTH EXCLAMATION MARK",
    "1QUOTATION MARK|1NUMBER SIGN|1DOLLAR SIGN|1PERCENT SIGN|1AMPERSAND|1APOSTROPHE",
    "1LEFT PARENTHESIS|1RIGHT PARENTHESIS|1ASTERISK|1PLUS SIGN|1COMMA|1HYPHEN-MINUS|1FULL STOP",
    "1SOLIDUS|1DIGIT ZERO|2ONE|2TWO|2THREE|2FOUR|2FIVE|2SIX|2SEVEN|2EIGHT|2NINE|1COLON|1SEMICOLON",
    "1LESS-THAN SIGN|1EQUALS SIGN|1GREATER-THAN SIGN|1QUESTION MARK|1COMMERCIAL AT",
    "1LATIN CAPITAL LETTER A|4B|4C|4D|4E|4F|4G|4H|4I|4J|4K|4L|4M|4N|4O|4P|4Q|4R|4S|4T|4U|4V|4W|4X",
    "4Y|4Z|1LEFT SQUARE BRACKET|1REVERSE SOLIDUS|1RIGHT SQUARE BRACKET|1CIRCUMFLEX ACCENT",
    "1LOW LINE|1GRAVE ACCENT|1LATIN SMALL LETTER A|4B|4C|4D|4E|4F|4G|4H|4I|4J|4K|4L|4M|4N|4O|4P",
    "4Q|4R|4S|4T|4U|4V|4W|4X|4Y|4Z|1LEFT CURLY BRACKET|1VERTICAL LINE|1RIGHT CURLY BRACKET|1TILDE",
    "1LEFT WHITE PARENTHESIS|1RIGHT WHITE PARENTHESIS|0HALFWIDTH IDEOGRAPHIC FULL STOP",
    "1LEFT CORNER BRACKET|1RIGHT CORNER BRACKET|1IDEOGRAPHIC COMMA|1KATAKANA MIDDLE DOT",
    "2LETTER WO|3SMALL A|4I|4U|4E|4O|4YA|4YU|4YO|4TU|1KATAKANA-HIRAGANA PROLONGED SOUND MARK",
    "1KATAKANA LETTER A|3I|3U|3E|3O|3KA|3KI|3KU|3KE|3KO|3SA|3SI|3SU|3SE|3SO|3TA|3TI|3TU|3TE|3TO",
    "3NA|3NI|3NU|3NE|3NO|3HA|3HI|3HU|3HE|3HO|3MA|3MI|3MU|3ME|3MO|3YA|3YU|3YO|3RA|3RI|3RU|3RE|3RO",
    "3WA|3N|2VOICED SOUND MARK|2SEMI-VOICED SOUND MARK|1HANGUL FILLER|2LETTER KIYEOK|3SSANGKIYEOK",
    "3KIYEOK-SIOS|3NIEUN|3NIEUN-CIEUC|3NIEUN-HIEUH|3TIKEUT|3SSANGTIKEUT|3RIEUL|3RIEUL-KIYEOK",
    "3RIEUL-MIEUM|3RIEUL-PIEUP|3RIEUL-SIOS|3RIEUL-THIEUTH|3RIEUL-PHIEUPH|3RIEUL-HIEUH|3MIEUM",
    "3PIEUP|3SSANGPIEUP|3PIEUP-SIOS|3SIOS|3SSANGSIOS|3IEUNG|3CIEUC|3SSANGCIEUC|3CHIEUCH|3KHIEUKH",
    "3THIEUTH|3PHIEUPH|3HIEUH||||3A|3AE|3YA|3YAE|3EO|3E|||3YEO|3YE|3O|3WA|3WAE|3OE|||3YO|3U|3WEO",
    "3WE|3WI|3YU|||3EU|3YI|3I||||0FULLWIDTH CENT SIGN|1POUND SIGN|1NOT SIGN|1MACRON|1BROKEN BAR",
    "1YEN SIGN|1WON SIGN||0HALFWIDTH FORMS LIGHT VERTICAL|1LEFTWARDS ARROW|1UPWARDS ARROW",
    "1RIGHTWARDS ARROW|1DOWNWARDS ARROW|1BLACK SQUARE|1WHITE CIRCLE||||||||||",
    "0INTERLINEAR ANNOTATION ANCHOR|2SEPARATOR|2TERMINATOR|0OBJECT REPLACEMENT CHARACTER",
    "0REPLACEMENT CHARACTER|||0LINEAR B SYLLABLE B008 A|3B038 E|3B028 I|3B061 O|3B010 U|3B001 DA",
    "3B045 DE|3B007 DI|3B014 DO|3B051 DU|3B057 JA|3B046 JE||3B036 JO|3B065 JU|3B077 KA|3B044 KE",
    "3B067 KI|3B070 KO|3B081 KU|3B080 MA|3B013 ME|3B073 MI|3B015 MO|3B023 MU|3B006 NA|3B024 NE",
    "3B030 NI|3B052 NO|3B055 NU|3B003 PA|3B072 PE|3B039 PI|3B011 PO|3B050 PU|3B016 QA|3B078 QE",
    "3B021 QI|3B032 QO||3B060 RA|3B027 RE|3B053 RI|3B002 RO|3B026 RU|3B031 SA|3B009 SE|3B041 SI",
    "3B012 SO|3B058 SU|3B059 TA|3B004 TE|3B037 TI|3B005 TO|3B069 TU|3B054 WA|3B075 WE|3B040 WI",
    "3B042 WO||3B017 ZA|3B074 ZE||3B020 ZO|3B025 A2|3B043 A3|3B085 AU|3B071 DWE|3B090 DWO",
    "3B048 NWA|3B029 PU2|3B062 PTE|3B076 RA2|3B033 RA3|3B068 RO2|3B066 TA2|3B087 TWE|3B091 TWO||",
    "2SYMBOL B018|3B019|3B022|3B034|3B047|3B049|3B056|3B063|3B064|3B079|3B082|3B083|3B086|3B089"]⟩,
  ⟨0x10080, [
    "0LINEAR B IDEOGRAM B100 MAN|3B102 WOMAN|3B104 DEER|3B105 EQUID|3B105F MARE|3B105M STALLION",
    "3B106F EWE|3B106M RAM|3B107F SHE-GOAT|3B107M HE-GOAT|3B108F SOW|3B108M BOAR|3B109F COW",
    "3B109M BULL|3B120 WHEAT|3B121 BARLEY|3B122 OLIVE|3B123 SPICE|3B125 CYPERUS",
    "2MONOGRAM B127 KAPO|3B128 KANAKO|2IDEOGRAM B130 OIL|3B131 WINE|3B132|2MONOGRAM B133 AREPA",
    "3B135 MERI|2IDEOGRAM B140 BRONZE|3B141 GOLD|3B142|3B145 WOOL|3B146|3B150|3B151 HORN|3B152",
    "3B153|3B154|2MONOGRAM B156 TURO2|2IDEOGRAM B157|3B158|3B159 CLOTH|3B160|3B161|3B162 GARMENT",
    "3B163 ARMOUR|3B164|3B165|3B166|3B167|3B168|3B169|3B170|3B171|3B172|3B173 MONTH|3B174",
    "3B176 TREE|3B177|3B178|3B179|3B180|3B181|3B182|3B183|3B184|3B185|3B189|3B190|3B191 HELMET",
    "3B220 FOOTSTOOL|3B225 BATHTUB|3B230 SPEAR|3B231 ARROW|3B232|3B233 SWORD|3B234|3B236",
    "3B240 WHEELED CHARIOT|3B241 CHARIOT|3B242 CHARIOT FRAME|3B243 WHEEL|3B245|3B246",
    "2MONOGRAM B247 DIPTE|2IDEOGRAM B248|3B249|3B251|3B252|3B253|3B254 DART|3B255|3B256|3B257",
    "3B258|3B259|3VESSEL B155|4B200|4B201|4B202|4B203|4B204|4B205|4B206|4B207|4B208|4B209|4B210",
    "4B211|4B212|4B213|4B214|4B215|4B216|4B217|4B218|4B219|4B221|4B222|4B226|4B227|4B228|4B229",
    "4B250|4B305"]⟩]

end JsonPatch.Text.Name
