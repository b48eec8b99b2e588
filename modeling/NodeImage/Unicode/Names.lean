import NodeImage.Unicode.Ranges

/-!
# Character names

The names of the Unicode Character Database, version 15.0.0, with the aliases that name
lookups accept, for finding a character by its name. Unified ideographs and Hangul
syllables are named by rule rather than listed: `CJK UNIFIED IDEOGRAPH-` and the code point
in four or five upper-case hexadecimal digits, and `HANGUL SYLLABLE ` and the short names
of the syllable's leading consonant, vowel and trailing consonant.

The list is stored in code point order, one entry a line. An entry starts with the distance
from the previous entry's code point in lower-case hexadecimal, left out when it is one,
then a letter from `g` to `z` that says how many leading characters the name shares with
the previous name (`g` for none, `h` for one, and so on), then the rest of the name.
-/

namespace NodeImage.Unicode

/-- The listed names, in the format described above. -/
def nameList : String := "
0gNUL
0jL
gSOH
0hTART OF HEADING
pTEXT
0iX
gEND OF TEXT
0hTX
hND OF TRANSMISSION
0hOT
hNQ
0jUIRY
gACK
0jNOWLEDGE
hLERT
0gBEL
hACKSPACE
0hS
gCHARACTER TABULATION
0gHORIZONTAL TABULATION
0hT
0gTAB
gEND OF LINE
0hOL
0gLF
0hINE FEED
0gNEW LINE
0hL
gLINE TABULATION
0gVERTICAL TABULATION
0hT
gFF
0hORM FEED
gCARRIAGE RETURN
0hR
gLOCKING-SHIFT ONE
0gSHIFT OUT
0hO
gLOCKING-SHIFT ZERO
0gSHIFT IN
0hI
gDATA LINK ESCAPE
0hLE
hC1
0hEVICE CONTROL ONE
hC2
0hEVICE CONTROL TWO
hC3
0hEVICE CONTROL THREE
hC4
0hEVICE CONTROL FOUR
gNAK
0hEGATIVE ACKNOWLEDGE
gSYN
0jCHRONOUS IDLE
gEND OF TRANSMISSION BLOCK
0hTB
gCAN
0jCEL
gEM
0hND OF MEDIUM
0hOM
gSUB
0jSTITUTE
gESC
0jAPE
gFILE SEPARATOR
0hS
0gINFORMATION SEPARATOR FOUR
gGROUP SEPARATOR
0hS
0gINFORMATION SEPARATOR THREE
zOR TWO
0gRECORD SEPARATOR
0hS
gINFORMATION SEPARATOR ONE
0gUNIT SEPARATOR
0hS
gSP
0iACE
gEXCLAMATION MARK
gQUOTATION MARK
gNUMBER SIGN
gDOLLAR SIGN
gPERCENT SIGN
gAMPERSAND
hPOSTROPHE
gLEFT PARENTHESIS
gRIGHT PARENTHESIS
gASTERISK
gPLUS SIGN
gCOMMA
gHYPHEN-MINUS
gFULL STOP
gSOLIDUS
gDIGIT ZERO
mONE
mTWO
nHREE
mFOUR
nIVE
mSIX
nEVEN
mEIGHT
mNINE
gCOLON
gSEMICOLON
gLESS-THAN SIGN
gEQUALS SIGN
gGREATER-THAN SIGN
gQUESTION MARK
gCOMMERCIAL AT
gLATIN CAPITAL LETTER A
zR B
zR C
zR D
zR E
zR F
zR G
zR H
zR I
zR J
zR K
zR L
zR M
zR N
zR O
zR P
zR Q
zR R
zR S
zR T
zR U
zR V
zR W
zR X
zR Y
zR Z
hEFT SQUARE BRACKET
gREVERSE SOLIDUS
hIGHT SQUARE BRACKET
gCIRCUMFLEX ACCENT
gLOW LINE
gGRAVE ACCENT
gLATIN SMALL LETTER A
zB
zC
zD
zE
zF
zG
zH
zI
zJ
zK
zL
zM
zN
zO
zP
zQ
zR
zS
zT
zU
zV
zW
zX
zY
zZ
hEFT CURLY BRACKET
gVERTICAL LINE
gRIGHT CURLY BRACKET
gTILDE
gDEL
0jETE
gPAD
0jDING CHARACTER
gHIGH OCTET PRESET
0hOP
gBPH
0hREAK PERMITTED HERE
gNBH
0hO BREAK HERE
gIND
0jEX
gNEL
0iXT LINE
gSSA
0hTART OF SELECTED AREA
gEND OF SELECTED AREA
0hSA
gCHARACTER TABULATION SET
0gHORIZONTAL TABULATION SET
0hTS
gCHARACTER TABULATION WITH JUSTIFICATION
0gHORIZONTAL TABULATION WITH JUSTIFICATION
0hTJ
gLINE TABULATION SET
0gVERTICAL TABULATION SET
0hTS
gPARTIAL LINE DOWN
0tFORWARD
0hLD
hARTIAL LINE BACKWARD
0tUP
0hLU
gREVERSE INDEX
0oLINE FEED
0hI
gSINGLE SHIFT TWO
0m-SHIFT-2
0hS2
hINGLE SHIFT THREE
0m-SHIFT-3
0hS3
gDCS
0hEVICE CONTROL STRING
gPRIVATE USE ONE
0r-1
0hU1
hRIVATE USE TWO
0r-2
0hU2
gSET TRANSMIT STATE
0hTS
gCANCEL CHARACTER
0hCH
gMESSAGE WAITING
0hW
gSPA
0hTART OF GUARDED AREA
0pPROTECTED AREA
gEND OF GUARDED AREA
0nPROTECTED AREA
0hPA
gSOS
0hTART OF STRING
hGC
0hINGLE GRAPHIC CHARACTER INTRODUCER
hCI
0hINGLE CHARACTER INTRODUCER
gCONTROL SEQUENCE INTRODUCER
0hSI
gST
0iRING TERMINATOR
gOPERATING SYSTEM COMMAND
0hSC
gPM
0hRIVACY MESSAGE
gAPC
0iPLICATION PROGRAM COMMAND
gNBSP
0hO-BREAK SPACE
gINVERTED EXCLAMATION MARK
gCENT SIGN
gPOUND SIGN
gCURRENCY SIGN
gYEN SIGN
gBROKEN BAR
gSECTION SIGN
gDIAERESIS
gCOPYRIGHT SIGN
gFEMININE ORDINAL INDICATOR
gLEFT-POINTING DOUBLE ANGLE QUOTATION MARK
gNOT SIGN
gSHY
0hOFT HYPHEN
gREGISTERED SIGN
gMACRON
gDEGREE SIGN
gPLUS-MINUS SIGN
gSUPERSCRIPT TWO
tHREE
gACUTE ACCENT
gMICRO SIGN
gPILCROW SIGN
gMIDDLE DOT
gCEDILLA
gSUPERSCRIPT ONE
gMASCULINE ORDINAL INDICATOR
gRIGHT-POINTING DOUBLE ANGLE QUOTATION MARK
gVULGAR FRACTION ONE QUARTER
z HALF
wTHREE QUARTERS
gINVERTED QUESTION MARK
gLATIN CAPITAL LETTER A WITH GRAVE
zR A WITH ACUTE
zR A WITH CIRCUMFLEX
zR A WITH TILDE
zR A WITH DIAERESIS
zR A WITH RING ABOVE
zR AE
zR C WITH CEDILLA
zR E WITH GRAVE
zR E WITH ACUTE
zR E WITH CIRCUMFLEX
zR E WITH DIAERESIS
zR I WITH GRAVE
zR I WITH ACUTE
zR I WITH CIRCUMFLEX
zR I WITH DIAERESIS
zR ETH
zR N WITH TILDE
zR O WITH GRAVE
zR O WITH ACUTE
zR O WITH CIRCUMFLEX
zR O WITH TILDE
zR O WITH DIAERESIS
gMULTIPLICATION SIGN
gLATIN CAPITAL LETTER O WITH STROKE
zR U WITH GRAVE
zR U WITH ACUTE
zR U WITH CIRCUMFLEX
zR U WITH DIAERESIS
zR Y WITH ACUTE
zR THORN
mSMALL LETTER SHARP S
zA WITH GRAVE
zA WITH ACUTE
zA WITH CIRCUMFLEX
zA WITH TILDE
zA WITH DIAERESIS
zA WITH RING ABOVE
zAE
zC WITH CEDILLA
zE WITH GRAVE
zE WITH ACUTE
zE WITH CIRCUMFLEX
zE WITH DIAERESIS
zI WITH GRAVE
zI WITH ACUTE
zI WITH CIRCUMFLEX
zI WITH DIAERESIS
zETH
zN WITH TILDE
zO WITH GRAVE
zO WITH ACUTE
zO WITH CIRCUMFLEX
zO WITH TILDE
zO WITH DIAERESIS
gDIVISION SIGN
gLATIN SMALL LETTER O WITH STROKE
zU WITH GRAVE
zU WITH ACUTE
zU WITH CIRCUMFLEX
zU WITH DIAERESIS
zY WITH ACUTE
zTHORN
zY WITH DIAERESIS
mCAPITAL LETTER A WITH MACRON
mSMALL LETTER A WITH MACRON
mCAPITAL LETTER A WITH BREVE
mSMALL LETTER A WITH BREVE
mCAPITAL LETTER A WITH OGONEK
mSMALL LETTER A WITH OGONEK
mCAPITAL LETTER C WITH ACUTE
mSMALL LETTER C WITH ACUTE
mCAPITAL LETTER C WITH CIRCUMFLEX
mSMALL LETTER C WITH CIRCUMFLEX
mCAPITAL LETTER C WITH DOT ABOVE
mSMALL LETTER C WITH DOT ABOVE
mCAPITAL LETTER C WITH CARON
mSMALL LETTER C WITH CARON
mCAPITAL LETTER D WITH CARON
mSMALL LETTER D WITH CARON
mCAPITAL LETTER D WITH STROKE
mSMALL LETTER D WITH STROKE
mCAPITAL LETTER E WITH MACRON
mSMALL LETTER E WITH MACRON
mCAPITAL LETTER E WITH BREVE
mSMALL LETTER E WITH BREVE
mCAPITAL LETTER E WITH DOT ABOVE
mSMALL LETTER E WITH DOT ABOVE
mCAPITAL LETTER E WITH OGONEK
mSMALL LETTER E WITH OGONEK
mCAPITAL LETTER E WITH CARON
mSMALL LETTER E WITH CARON
mCAPITAL LETTER G WITH CIRCUMFLEX
mSMALL LETTER G WITH CIRCUMFLEX
mCAPITAL LETTER G WITH BREVE
mSMALL LETTER G WITH BREVE
mCAPITAL LETTER G WITH DOT ABOVE
mSMALL LETTER G WITH DOT ABOVE
mCAPITAL LETTER G WITH CEDILLA
mSMALL LETTER G WITH CEDILLA
mCAPITAL LETTER H WITH CIRCUMFLEX
mSMALL LETTER H WITH CIRCUMFLEX
mCAPITAL LETTER H WITH STROKE
mSMALL LETTER H WITH STROKE
mCAPITAL LETTER I WITH TILDE
mSMALL LETTER I WITH TILDE
mCAPITAL LETTER I WITH MACRON
mSMALL LETTER I WITH MACRON
mCAPITAL LETTER I WITH BREVE
mSMALL LETTER I WITH BREVE
mCAPITAL LETTER I WITH OGONEK
mSMALL LETTER I WITH OGONEK
mCAPITAL LETTER I WITH DOT ABOVE
mSMALL LETTER DOTLESS I
mCAPITAL LIGATURE IJ
mSMALL LIGATURE IJ
mCAPITAL LETTER J WITH CIRCUMFLEX
mSMALL LETTER J WITH CIRCUMFLEX
mCAPITAL LETTER K WITH CEDILLA
mSMALL LETTER K WITH CEDILLA
zKRA
mCAPITAL LETTER L WITH ACUTE
mSMALL LETTER L WITH ACUTE
mCAPITAL LETTER L WITH CEDILLA
mSMALL LETTER L WITH CEDILLA
mCAPITAL LETTER L WITH CARON
mSMALL LETTER L WITH CARON
mCAPITAL LETTER L WITH MIDDLE DOT
mSMALL LETTER L WITH MIDDLE DOT
mCAPITAL LETTER L WITH STROKE
mSMALL LETTER L WITH STROKE
mCAPITAL LETTER N WITH ACUTE
mSMALL LETTER N WITH ACUTE
mCAPITAL LETTER N WITH CEDILLA
mSMALL LETTER N WITH CEDILLA
mCAPITAL LETTER N WITH CARON
mSMALL LETTER N WITH CARON
zN PRECEDED BY APOSTROPHE
mCAPITAL LETTER ENG
mSMALL LETTER ENG
mCAPITAL LETTER O WITH MACRON
mSMALL LETTER O WITH MACRON
mCAPITAL LETTER O WITH BREVE
mSMALL LETTER O WITH BREVE
mCAPITAL LETTER O WITH DOUBLE ACUTE
mSMALL LETTER O WITH DOUBLE ACUTE
mCAPITAL LIGATURE OE
mSMALL LIGATURE OE
mCAPITAL LETTER R WITH ACUTE
mSMALL LETTER R WITH ACUTE
mCAPITAL LETTER R WITH CEDILLA
mSMALL LETTER R WITH CEDILLA
mCAPITAL LETTER R WITH CARON
mSMALL LETTER R WITH CARON
mCAPITAL LETTER S WITH ACUTE
mSMALL LETTER S WITH ACUTE
mCAPITAL LETTER S WITH CIRCUMFLEX
mSMALL LETTER S WITH CIRCUMFLEX
mCAPITAL LETTER S WITH CEDILLA
mSMALL LETTER S WITH CEDILLA
mCAPITAL LETTER S WITH CARON
mSMALL LETTER S WITH CARON
mCAPITAL LETTER T WITH CEDILLA
mSMALL LETTER T WITH CEDILLA
mCAPITAL LETTER T WITH CARON
mSMALL LETTER T WITH CARON
mCAPITAL LETTER T WITH STROKE
mSMALL LETTER T WITH STROKE
mCAPITAL LETTER U WITH TILDE
mSMALL LETTER U WITH TILDE
mCAPITAL LETTER U WITH MACRON
mSMALL LETTER U WITH MACRON
mCAPITAL LETTER U WITH BREVE
mSMALL LETTER U WITH BREVE
mCAPITAL LETTER U WITH RING ABOVE
mSMALL LETTER U WITH RING ABOVE
mCAPITAL LETTER U WITH DOUBLE ACUTE
mSMALL LETTER U WITH DOUBLE ACUTE
mCAPITAL LETTER U WITH OGONEK
mSMALL LETTER U WITH OGONEK
mCAPITAL LETTER W WITH CIRCUMFLEX
mSMALL LETTER W WITH CIRCUMFLEX
mCAPITAL LETTER Y WITH CIRCUMFLEX
mSMALL LETTER Y WITH CIRCUMFLEX
mCAPITAL LETTER Y WITH DIAERESIS
zR Z WITH ACUTE
mSMALL LETTER Z WITH ACUTE
mCAPITAL LETTER Z WITH DOT ABOVE
mSMALL LETTER Z WITH DOT ABOVE
mCAPITAL LETTER Z WITH CARON
mSMALL LETTER Z WITH CARON
zLONG S
zB WITH STROKE
mCAPITAL LETTER B WITH HOOK
zR B WITH TOPBAR
mSMALL LETTER B WITH TOPBAR
mCAPITAL LETTER TONE SIX
mSMALL LETTER TONE SIX
mCAPITAL LETTER OPEN O
zR C WITH HOOK
mSMALL LETTER C WITH HOOK
mCAPITAL LETTER AFRICAN D
zR D WITH HOOK
zR D WITH TOPBAR
mSMALL LETTER D WITH TOPBAR
zTURNED DELTA
mCAPITAL LETTER REVERSED E
zR SCHWA
zR OPEN E
zR F WITH HOOK
mSMALL LETTER F WITH HOOK
mCAPITAL LETTER G WITH HOOK
zR GAMMA
mSMALL LETTER HV
mCAPITAL LETTER IOTA
zR I WITH STROKE
zR K WITH HOOK
mSMALL LETTER K WITH HOOK
zL WITH BAR
zLAMBDA WITH STROKE
mCAPITAL LETTER TURNED M
zR N WITH LEFT HOOK
mSMALL LETTER N WITH LONG RIGHT LEG
mCAPITAL LETTER O WITH MIDDLE TILDE
zR O WITH HORN
mSMALL LETTER O WITH HORN
mCAPITAL LETTER GHA
0zR OI
mSMALL LETTER GHA
0zOI
mCAPITAL LETTER P WITH HOOK
mSMALL LETTER P WITH HOOK
mLETTER YR
mCAPITAL LETTER TONE TWO
mSMALL LETTER TONE TWO
mCAPITAL LETTER ESH
mLETTER REVERSED ESH LOOP
mSMALL LETTER T WITH PALATAL HOOK
mCAPITAL LETTER T WITH HOOK
mSMALL LETTER T WITH HOOK
mCAPITAL LETTER T WITH RETROFLEX HOOK
zR U WITH HORN
mSMALL LETTER U WITH HORN
mCAPITAL LETTER UPSILON
zR V WITH HOOK
zR Y WITH HOOK
mSMALL LETTER Y WITH HOOK
mCAPITAL LETTER Z WITH STROKE
mSMALL LETTER Z WITH STROKE
mCAPITAL LETTER EZH
zR EZH REVERSED
mSMALL LETTER EZH REVERSED
zEZH WITH TAIL
mLETTER TWO WITH STROKE
mCAPITAL LETTER TONE FIVE
mSMALL LETTER TONE FIVE
mLETTER INVERTED GLOTTAL STOP WITH STROKE
tWYNN
tDENTAL CLICK
tLATERAL CLICK
tALVEOLAR CLICK
tRETROFLEX CLICK
mCAPITAL LETTER DZ WITH CARON
zR D WITH SMALL LETTER Z WITH CARON
mSMALL LETTER DZ WITH CARON
mCAPITAL LETTER LJ
zR L WITH SMALL LETTER J
mSMALL LETTER LJ
mCAPITAL LETTER NJ
zR N WITH SMALL LETTER J
mSMALL LETTER NJ
mCAPITAL LETTER A WITH CARON
mSMALL LETTER A WITH CARON
mCAPITAL LETTER I WITH CARON
mSMALL LETTER I WITH CARON
mCAPITAL LETTER O WITH CARON
mSMALL LETTER O WITH CARON
mCAPITAL LETTER U WITH CARON
mSMALL LETTER U WITH CARON
mCAPITAL LETTER U WITH DIAERESIS AND MACRON
mSMALL LETTER U WITH DIAERESIS AND MACRON
mCAPITAL LETTER U WITH DIAERESIS AND ACUTE
mSMALL LETTER U WITH DIAERESIS AND ACUTE
mCAPITAL LETTER U WITH DIAERESIS AND CARON
mSMALL LETTER U WITH DIAERESIS AND CARON
mCAPITAL LETTER U WITH DIAERESIS AND GRAVE
mSMALL LETTER U WITH DIAERESIS AND GRAVE
zTURNED E
mCAPITAL LETTER A WITH DIAERESIS AND MACRON
mSMALL LETTER A WITH DIAERESIS AND MACRON
mCAPITAL LETTER A WITH DOT ABOVE AND MACRON
mSMALL LETTER A WITH DOT ABOVE AND MACRON
mCAPITAL LETTER AE WITH MACRON
mSMALL LETTER AE WITH MACRON
mCAPITAL LETTER G WITH STROKE
mSMALL LETTER G WITH STROKE
mCAPITAL LETTER G WITH CARON
mSMALL LETTER G WITH CARON
mCAPITAL LETTER K WITH CARON
mSMALL LETTER K WITH CARON
mCAPITAL LETTER O WITH OGONEK
mSMALL LETTER O WITH OGONEK
mCAPITAL LETTER O WITH OGONEK AND MACRON
mSMALL LETTER O WITH OGONEK AND MACRON
mCAPITAL LETTER EZH WITH CARON
mSMALL LETTER EZH WITH CARON
zJ WITH CARON
mCAPITAL LETTER DZ
zR D WITH SMALL LETTER Z
mSMALL LETTER DZ
mCAPITAL LETTER G WITH ACUTE
mSMALL LETTER G WITH ACUTE
mCAPITAL LETTER HWAIR
zR WYNN
zR N WITH GRAVE
mSMALL LETTER N WITH GRAVE
mCAPITAL LETTER A WITH RING ABOVE AND ACUTE
mSMALL LETTER A WITH RING ABOVE AND ACUTE
mCAPITAL LETTER AE WITH ACUTE
mSMALL LETTER AE WITH ACUTE
mCAPITAL LETTER O WITH STROKE AND ACUTE
mSMALL LETTER O WITH STROKE AND ACUTE
mCAPITAL LETTER A WITH DOUBLE GRAVE
mSMALL LETTER A WITH DOUBLE GRAVE
mCAPITAL LETTER A WITH INVERTED BREVE
mSMALL LETTER A WITH INVERTED BREVE
mCAPITAL LETTER E WITH DOUBLE GRAVE
mSMALL LETTER E WITH DOUBLE GRAVE
mCAPITAL LETTER E WITH INVERTED BREVE
mSMALL LETTER E WITH INVERTED BREVE
mCAPITAL LETTER I WITH DOUBLE GRAVE
mSMALL LETTER I WITH DOUBLE GRAVE
mCAPITAL LETTER I WITH INVERTED BREVE
mSMALL LETTER I WITH INVERTED BREVE
mCAPITAL LETTER O WITH DOUBLE GRAVE
mSMALL LETTER O WITH DOUBLE GRAVE
mCAPITAL LETTER O WITH INVERTED BREVE
mSMALL LETTER O WITH INVERTED BREVE
mCAPITAL LETTER R WITH DOUBLE GRAVE
mSMALL LETTER R WITH DOUBLE GRAVE
mCAPITAL LETTER R WITH INVERTED BREVE
mSMALL LETTER R WITH INVERTED BREVE
mCAPITAL LETTER U WITH DOUBLE GRAVE
mSMALL LETTER U WITH DOUBLE GRAVE
mCAPITAL LETTER U WITH INVERTED BREVE
mSMALL LETTER U WITH INVERTED BREVE
mCAPITAL LETTER S WITH COMMA BELOW
mSMALL LETTER S WITH COMMA BELOW
mCAPITAL LETTER T WITH COMMA BELOW
mSMALL LETTER T WITH COMMA BELOW
mCAPITAL LETTER YOGH
mSMALL LETTER YOGH
mCAPITAL LETTER H WITH CARON
mSMALL LETTER H WITH CARON
mCAPITAL LETTER N WITH LONG RIGHT LEG
mSMALL LETTER D WITH CURL
mCAPITAL LETTER OU
mSMALL LETTER OU
mCAPITAL LETTER Z WITH HOOK
mSMALL LETTER Z WITH HOOK
mCAPITAL LETTER A WITH DOT ABOVE
mSMALL LETTER A WITH DOT ABOVE
mCAPITAL LETTER E WITH CEDILLA
mSMALL LETTER E WITH CEDILLA
mCAPITAL LETTER O WITH DIAERESIS AND MACRON
mSMALL LETTER O WITH DIAERESIS AND MACRON
mCAPITAL LETTER O WITH TILDE AND MACRON
mSMALL LETTER O WITH TILDE AND MACRON
mCAPITAL LETTER O WITH DOT ABOVE
mSMALL LETTER O WITH DOT ABOVE
mCAPITAL LETTER O WITH DOT ABOVE AND MACRON
mSMALL LETTER O WITH DOT ABOVE AND MACRON
mCAPITAL LETTER Y WITH MACRON
mSMALL LETTER Y WITH MACRON
zL WITH CURL
zN WITH CURL
zT WITH CURL
zDOTLESS J
zDB DIGRAPH
zQP DIGRAPH
mCAPITAL LETTER A WITH STROKE
zR C WITH STROKE
mSMALL LETTER C WITH STROKE
mCAPITAL LETTER L WITH BAR
zR T WITH DIAGONAL STROKE
mSMALL LETTER S WITH SWASH TAIL
zZ WITH SWASH TAIL
mCAPITAL LETTER GLOTTAL STOP
mSMALL LETTER GLOTTAL STOP
mCAPITAL LETTER B WITH STROKE
zR U BAR
zR TURNED V
zR E WITH STROKE
mSMALL LETTER E WITH STROKE
mCAPITAL LETTER J WITH STROKE
mSMALL LETTER J WITH STROKE
mCAPITAL LETTER SMALL Q WITH HOOK TAIL
mSMALL LETTER Q WITH HOOK TAIL
mCAPITAL LETTER R WITH STROKE
mSMALL LETTER R WITH STROKE
mCAPITAL LETTER Y WITH STROKE
mSMALL LETTER Y WITH STROKE
zTURNED A
zALPHA
zTURNED ALPHA
zB WITH HOOK
zOPEN O
zC WITH CURL
zD WITH TAIL
zD WITH HOOK
zREVERSED E
zSCHWA
zSCHWA WITH HOOK
zOPEN E
zREVERSED OPEN E
zREVERSED OPEN E WITH HOOK
zCLOSED REVERSED OPEN E
zDOTLESS J WITH STROKE
zG WITH HOOK
zSCRIPT G
mLETTER SMALL CAPITAL G
mSMALL LETTER GAMMA
zRAMS HORN
zTURNED H
zH WITH HOOK
zHENG WITH HOOK
zI WITH STROKE
zIOTA
mLETTER SMALL CAPITAL I
mSMALL LETTER L WITH MIDDLE TILDE
zL WITH BELT
zL WITH RETROFLEX HOOK
zLEZH
zTURNED M
zTURNED M WITH LONG LEG
zM WITH HOOK
zN WITH LEFT HOOK
zN WITH RETROFLEX HOOK
mLETTER SMALL CAPITAL N
mSMALL LETTER BARRED O
mLETTER SMALL CAPITAL OE
mSMALL LETTER CLOSED OMEGA
zPHI
zTURNED R
zTURNED R WITH LONG LEG
zTURNED R WITH HOOK
zR WITH LONG LEG
zR WITH TAIL
zR WITH FISHHOOK
zREVERSED R WITH FISHHOOK
mLETTER SMALL CAPITAL R
zCAPITAL INVERTED R
mSMALL LETTER S WITH HOOK
zESH
zDOTLESS J WITH STROKE AND HOOK
zSQUAT REVERSED ESH
zESH WITH CURL
zTURNED T
zT WITH RETROFLEX HOOK
zU BAR
zUPSILON
zV WITH HOOK
zTURNED V
zTURNED W
zTURNED Y
mLETTER SMALL CAPITAL Y
mSMALL LETTER Z WITH RETROFLEX HOOK
zZ WITH CURL
zEZH
zEZH WITH CURL
mLETTER GLOTTAL STOP
tPHARYNGEAL VOICED FRICATIVE
tINVERTED GLOTTAL STOP
tSTRETCHED C
tBILABIAL CLICK
tSMALL CAPITAL B
mSMALL LETTER CLOSED OPEN E
mLETTER SMALL CAPITAL G WITH HOOK
zCAPITAL H
mSMALL LETTER J WITH CROSSED-TAIL
zTURNED K
mLETTER SMALL CAPITAL L
mSMALL LETTER Q WITH HOOK
mLETTER GLOTTAL STOP WITH STROKE
tREVERSED GLOTTAL STOP WITH STROKE
mSMALL LETTER DZ DIGRAPH
zDEZH DIGRAPH
zDZ DIGRAPH WITH CURL
zTS DIGRAPH
zTESH DIGRAPH
zTC DIGRAPH WITH CURL
zFENG DIGRAPH
zLS DIGRAPH
zLZ DIGRAPH
mLETTER BILABIAL PERCUSSIVE
vDENTAL PERCUSSIVE
mSMALL LETTER TURNED H WITH FISHHOOK
zTURNED H WITH FISHHOOK AND TAIL
gMODIFIER LETTER SMALL H
zLL H WITH HOOK
zLL J
zLL R
zLL TURNED R
zLL TURNED R WITH HOOK
zLL CAPITAL INVERTED R
zLL W
zLL Y
wPRIME
wDOUBLE PRIME
wTURNED COMMA
wAPOSTROPHE
wREVERSED COMMA
xIGHT HALF RING
wLEFT HALF RING
wGLOTTAL STOP
wREVERSED GLOTTAL STOP
wLEFT ARROWHEAD
wRIGHT ARROWHEAD
wUP ARROWHEAD
wDOWN ARROWHEAD
wCIRCUMFLEX ACCENT
gCARON
gMODIFIER LETTER VERTICAL LINE
wMACRON
wACUTE ACCENT
wGRAVE ACCENT
wLOW VERTICAL LINE
z MACRON
z GRAVE ACCENT
z ACUTE ACCENT
wTRIANGULAR COLON
wHALF TRIANGULAR COLON
wCENTRED RIGHT HALF RING
zTRED LEFT HALF RING
wUP TACK
wDOWN TACK
wPLUS SIGN
wMINUS SIGN
gBREVE
gDOT ABOVE
gRING ABOVE
gOGONEK
gSMALL TILDE
gDOUBLE ACUTE ACCENT
gMODIFIER LETTER RHOTIC HOOK
wCROSS ACCENT
wSMALL GAMMA
zLL L
zLL S
zLL X
zLL REVERSED GLOTTAL STOP
wEXTRA-HIGH TONE BAR
wHIGH TONE BAR
wMID TONE BAR
wLOW TONE BAR
wEXTRA-LOW TONE BAR
wYIN DEPARTING TONE MARK
xANG DEPARTING TONE MARK
wVOICING
wUNASPIRATED
wDOUBLE APOSTROPHE
wLOW DOWN ARROWHEAD
z UP ARROWHEAD
z LEFT ARROWHEAD
z RIGHT ARROWHEAD
z RING
wMIDDLE GRAVE ACCENT
zDLE DOUBLE GRAVE ACCENT
zDLE DOUBLE ACUTE ACCENT
wLOW TILDE
wRAISED COLON
wBEGIN HIGH TONE
wEND HIGH TONE
wBEGIN LOW TONE
wEND LOW TONE
wSHELF
wOPEN SHELF
wLOW LEFT ARROW
gCOMBINING GRAVE ACCENT
qACUTE ACCENT
qCIRCUMFLEX ACCENT
qTILDE
qMACRON
qOVERLINE
qBREVE
qDOT ABOVE
rIAERESIS
qHOOK ABOVE
qRING ABOVE
qDOUBLE ACUTE ACCENT
qCARON
qVERTICAL LINE ABOVE
qDOUBLE VERTICAL LINE ABOVE
xGRAVE ACCENT
qCANDRABINDU
qINVERTED BREVE
qTURNED COMMA ABOVE
qCOMMA ABOVE
qREVERSED COMMA ABOVE
qCOMMA ABOVE RIGHT
qGRAVE ACCENT BELOW
qACUTE ACCENT BELOW
qLEFT TACK BELOW
qRIGHT TACK BELOW
qLEFT ANGLE ABOVE
qHORN
qLEFT HALF RING BELOW
qUP TACK BELOW
qDOWN TACK BELOW
qPLUS SIGN BELOW
qMINUS SIGN BELOW
qPALATALIZED HOOK BELOW
qRETROFLEX HOOK BELOW
qDOT BELOW
rIAERESIS BELOW
qRING BELOW
qCOMMA BELOW
rEDILLA
qOGONEK
qVERTICAL LINE BELOW
qBRIDGE BELOW
qINVERTED DOUBLE ARCH BELOW
qCARON BELOW
rIRCUMFLEX ACCENT BELOW
qBREVE BELOW
qINVERTED BREVE BELOW
qTILDE BELOW
qMACRON BELOW
qLOW LINE
qDOUBLE LOW LINE
qTILDE OVERLAY
qSHORT STROKE OVERLAY
qLONG STROKE OVERLAY
qSHORT SOLIDUS OVERLAY
qLONG SOLIDUS OVERLAY
qRIGHT HALF RING BELOW
qINVERTED BRIDGE BELOW
qSQUARE BELOW
rEAGULL BELOW
qX ABOVE
qVERTICAL TILDE
qDOUBLE OVERLINE
qGRAVE TONE MARK
qACUTE TONE MARK
qGREEK PERISPOMENI
wKORONIS
wDIALYTIKA TONOS
wYPOGEGRAMMENI
qBRIDGE ABOVE
qEQUALS SIGN BELOW
qDOUBLE VERTICAL LINE BELOW
qLEFT ANGLE BELOW
qNOT TILDE ABOVE
qHOMOTHETIC ABOVE
qALMOST EQUAL TO ABOVE
qLEFT RIGHT ARROW BELOW
qUPWARDS ARROW BELOW
hGJ
0hOMBINING GRAPHEME JOINER
qRIGHT ARROWHEAD ABOVE
qLEFT HALF RING ABOVE
qFERMATA
qX BELOW
qLEFT ARROWHEAD BELOW
qRIGHT ARROWHEAD BELOW
zOWHEAD AND UP ARROWHEAD BELOW
wHALF RING ABOVE
qDOT ABOVE RIGHT
qASTERISK BELOW
qDOUBLE RING BELOW
qZIGZAG ABOVE
qDOUBLE BREVE BELOW
zEVE
xMACRON
zCRON BELOW
xTILDE
xINVERTED BREVE
xRIGHTWARDS ARROW BELOW
qLATIN SMALL LETTER A
zLL LETTER E
zLL LETTER I
zLL LETTER O
zLL LETTER U
zLL LETTER C
zLL LETTER D
zLL LETTER H
zLL LETTER M
zLL LETTER R
zLL LETTER T
zLL LETTER V
zLL LETTER X
gGREEK CAPITAL LETTER HETA
mSMALL LETTER HETA
mCAPITAL LETTER ARCHAIC SAMPI
mSMALL LETTER ARCHAIC SAMPI
mNUMERAL SIGN
mLOWER NUMERAL SIGN
mCAPITAL LETTER PAMPHYLIAN DIGAMMA
mSMALL LETTER PAMPHYLIAN DIGAMMA
3mYPOGEGRAMMENI
mSMALL REVERSED LUNATE SIGMA SYMBOL
sDOTTED LUNATE SIGMA SYMBOL
sREVERSED DOTTED LUNATE SIGMA SYMBOL
mQUESTION MARK
mCAPITAL LETTER YOT
5mTONOS
mDIALYTIKA TONOS
mCAPITAL LETTER ALPHA WITH TONOS
mANO TELEIA
mCAPITAL LETTER EPSILON WITH TONOS
zR ETA WITH TONOS
zR IOTA WITH TONOS
2zR OMICRON WITH TONOS
2zR UPSILON WITH TONOS
zR OMEGA WITH TONOS
mSMALL LETTER IOTA WITH DIALYTIKA AND TONOS
mCAPITAL LETTER ALPHA
zR BETA
zR GAMMA
zR DELTA
zR EPSILON
zR ZETA
zR ETA
zR THETA
zR IOTA
zR KAPPA
zR LAMDA
zR MU
zR NU
zR XI
zR OMICRON
zR PI
zR RHO
2zR SIGMA
zR TAU
zR UPSILON
zR PHI
zR CHI
zR PSI
zR OMEGA
zR IOTA WITH DIALYTIKA
zR UPSILON WITH DIALYTIKA
mSMALL LETTER ALPHA WITH TONOS
zEPSILON WITH TONOS
zETA WITH TONOS
zIOTA WITH TONOS
zUPSILON WITH DIALYTIKA AND TONOS
zALPHA
zBETA
zGAMMA
zDELTA
zEPSILON
zZETA
zETA
zTHETA
zIOTA
zKAPPA
zLAMDA
zMU
zNU
zXI
zOMICRON
zPI
zRHO
zFINAL SIGMA
zSIGMA
zTAU
zUPSILON
zPHI
zCHI
zPSI
zOMEGA
zIOTA WITH DIALYTIKA
zUPSILON WITH DIALYTIKA
zOMICRON WITH TONOS
zUPSILON WITH TONOS
zOMEGA WITH TONOS
mCAPITAL KAI SYMBOL
mBETA SYMBOL
mTHETA SYMBOL
mUPSILON WITH HOOK SYMBOL
zACUTE AND HOOK SYMBOL
zDIAERESIS AND HOOK SYMBOL
mPHI SYMBOL
nI SYMBOL
mKAI SYMBOL
mLETTER ARCHAIC KOPPA
mSMALL LETTER ARCHAIC KOPPA
mLETTER STIGMA
mSMALL LETTER STIGMA
mLETTER DIGAMMA
mSMALL LETTER DIGAMMA
mLETTER KOPPA
mSMALL LETTER KOPPA
mLETTER SAMPI
mSMALL LETTER SAMPI
gCOPTIC CAPITAL LETTER SHEI
nSMALL LETTER SHEI
nCAPITAL LETTER FEI
nSMALL LETTER FEI
nCAPITAL LETTER KHEI
nSMALL LETTER KHEI
nCAPITAL LETTER HORI
nSMALL LETTER HORI
nCAPITAL LETTER GANGIA
nSMALL LETTER GANGIA
nCAPITAL LETTER SHIMA
nSMALL LETTER SHIMA
nCAPITAL LETTER DEI
nSMALL LETTER DEI
gGREEK KAPPA SYMBOL
mRHO SYMBOL
mLUNATE SIGMA SYMBOL
nETTER YOT
mCAPITAL THETA SYMBOL
mLUNATE EPSILON SYMBOL
mREVERSED LUNATE EPSILON SYMBOL
mCAPITAL LETTER SHO
mSMALL LETTER SHO
mCAPITAL LUNATE SIGMA SYMBOL
vETTER SAN
mSMALL LETTER SAN
mRHO WITH STROKE SYMBOL
mCAPITAL REVERSED LUNATE SIGMA SYMBOL
uDOTTED LUNATE SIGMA SYMBOL
uREVERSED DOTTED LUNATE SIGMA SYMBOL
gCYRILLIC CAPITAL LETTER IE WITH GRAVE
zTTER IO
zTTER DJE
zTTER GJE
zTTER UKRAINIAN IE
zTTER DZE
zTTER BYELORUSSIAN-UKRAINIAN I
zTTER YI
zTTER JE
zTTER LJE
zTTER NJE
zTTER TSHE
zTTER KJE
zTTER I WITH GRAVE
zTTER SHORT U
zTTER DZHE
zTTER A
zTTER BE
zTTER VE
zTTER GHE
zTTER DE
zTTER IE
zTTER ZHE
zTTER ZE
zTTER I
zTTER SHORT I
zTTER KA
zTTER EL
zTTER EM
zTTER EN
zTTER O
zTTER PE
zTTER ER
zTTER ES
zTTER TE
zTTER U
zTTER EF
zTTER HA
zTTER TSE
zTTER CHE
zTTER SHA
zTTER SHCHA
zTTER HARD SIGN
zTTER YERU
zTTER SOFT SIGN
zTTER E
zTTER YU
zTTER YA
pSMALL LETTER A
zER BE
zER VE
zER GHE
zER DE
zER IE
zER ZHE
zER ZE
zER I
zER SHORT I
zER KA
zER EL
zER EM
zER EN
zER O
zER PE
zER ER
zER ES
zER TE
zER U
zER EF
zER HA
zER TSE
zER CHE
zER SHA
zER SHCHA
zER HARD SIGN
zER YERU
zER SOFT SIGN
zER E
zER YU
zER YA
zER IE WITH GRAVE
zER IO
zER DJE
zER GJE
zER UKRAINIAN IE
zER DZE
zER BYELORUSSIAN-UKRAINIAN I
zER YI
zER JE
zER LJE
zER NJE
zER TSHE
zER KJE
zER I WITH GRAVE
zER SHORT U
zER DZHE
pCAPITAL LETTER OMEGA
pSMALL LETTER OMEGA
pCAPITAL LETTER YAT
pSMALL LETTER YAT
pCAPITAL LETTER IOTIFIED E
pSMALL LETTER IOTIFIED E
pCAPITAL LETTER LITTLE YUS
pSMALL LETTER LITTLE YUS
pCAPITAL LETTER IOTIFIED LITTLE YUS
pSMALL LETTER IOTIFIED LITTLE YUS
pCAPITAL LETTER BIG YUS
pSMALL LETTER BIG YUS
pCAPITAL LETTER IOTIFIED BIG YUS
pSMALL LETTER IOTIFIED BIG YUS
pCAPITAL LETTER KSI
pSMALL LETTER KSI
pCAPITAL LETTER PSI
pSMALL LETTER PSI
pCAPITAL LETTER FITA
pSMALL LETTER FITA
pCAPITAL LETTER IZHITSA
pSMALL LETTER IZHITSA
pCAPITAL LETTER IZHITSA WITH DOUBLE GRAVE ACCENT
pSMALL LETTER IZHITSA WITH DOUBLE GRAVE ACCENT
pCAPITAL LETTER UK
pSMALL LETTER UK
pCAPITAL LETTER ROUND OMEGA
pSMALL LETTER ROUND OMEGA
pCAPITAL LETTER OMEGA WITH TITLO
pSMALL LETTER OMEGA WITH TITLO
pCAPITAL LETTER OT
pSMALL LETTER OT
pCAPITAL LETTER KOPPA
pSMALL LETTER KOPPA
pTHOUSANDS SIGN
hOMBINING CYRILLIC TITLO
zPALATALIZATION
zDASIA PNEUMATA
zPSILI PNEUMATA
zPOKRYTIE
zHUNDRED THOUSANDS SIGN
zMILLIONS SIGN
hYRILLIC CAPITAL LETTER SHORT I WITH TAIL
pSMALL LETTER SHORT I WITH TAIL
pCAPITAL LETTER SEMISOFT SIGN
pSMALL LETTER SEMISOFT SIGN
pCAPITAL LETTER ER WITH TICK
pSMALL LETTER ER WITH TICK
pCAPITAL LETTER GHE WITH UPTURN
pSMALL LETTER GHE WITH UPTURN
pCAPITAL LETTER GHE WITH STROKE
pSMALL LETTER GHE WITH STROKE
pCAPITAL LETTER GHE WITH MIDDLE HOOK
pSMALL LETTER GHE WITH MIDDLE HOOK
pCAPITAL LETTER ZHE WITH DESCENDER
pSMALL LETTER ZHE WITH DESCENDER
pCAPITAL LETTER ZE WITH DESCENDER
pSMALL LETTER ZE WITH DESCENDER
pCAPITAL LETTER KA WITH DESCENDER
pSMALL LETTER KA WITH DESCENDER
pCAPITAL LETTER KA WITH VERTICAL STROKE
pSMALL LETTER KA WITH VERTICAL STROKE
pCAPITAL LETTER KA WITH STROKE
pSMALL LETTER KA WITH STROKE
pCAPITAL LETTER BASHKIR KA
pSMALL LETTER BASHKIR KA
pCAPITAL LETTER EN WITH DESCENDER
pSMALL LETTER EN WITH DESCENDER
pCAPITAL LIGATURE EN GHE
pSMALL LIGATURE EN GHE
pCAPITAL LETTER PE WITH MIDDLE HOOK
pSMALL LETTER PE WITH MIDDLE HOOK
pCAPITAL LETTER ABKHASIAN HA
pSMALL LETTER ABKHASIAN HA
pCAPITAL LETTER ES WITH DESCENDER
pSMALL LETTER ES WITH DESCENDER
pCAPITAL LETTER TE WITH DESCENDER
pSMALL LETTER TE WITH DESCENDER
pCAPITAL LETTER STRAIGHT U
pSMALL LETTER STRAIGHT U
pCAPITAL LETTER STRAIGHT U WITH STROKE
pSMALL LETTER STRAIGHT U WITH STROKE
pCAPITAL LETTER HA WITH DESCENDER
pSMALL LETTER HA WITH DESCENDER
pCAPITAL LIGATURE TE TSE
pSMALL LIGATURE TE TSE
pCAPITAL LETTER CHE WITH DESCENDER
pSMALL LETTER CHE WITH DESCENDER
pCAPITAL LETTER CHE WITH VERTICAL STROKE
pSMALL LETTER CHE WITH VERTICAL STROKE
pCAPITAL LETTER SHHA
pSMALL LETTER SHHA
pCAPITAL LETTER ABKHASIAN CHE
pSMALL LETTER ABKHASIAN CHE
pCAPITAL LETTER ABKHASIAN CHE WITH DESCENDER
pSMALL LETTER ABKHASIAN CHE WITH DESCENDER
pLETTER PALOCHKA
pCAPITAL LETTER ZHE WITH BREVE
pSMALL LETTER ZHE WITH BREVE
pCAPITAL LETTER KA WITH HOOK
pSMALL LETTER KA WITH HOOK
pCAPITAL LETTER EL WITH TAIL
pSMALL LETTER EL WITH TAIL
pCAPITAL LETTER EN WITH HOOK
pSMALL LETTER EN WITH HOOK
pCAPITAL LETTER EN WITH TAIL
pSMALL LETTER EN WITH TAIL
pCAPITAL LETTER KHAKASSIAN CHE
pSMALL LETTER KHAKASSIAN CHE
pCAPITAL LETTER EM WITH TAIL
pSMALL LETTER EM WITH TAIL
zER PALOCHKA
pCAPITAL LETTER A WITH BREVE
pSMALL LETTER A WITH BREVE
pCAPITAL LETTER A WITH DIAERESIS
pSMALL LETTER A WITH DIAERESIS
pCAPITAL LIGATURE A IE
pSMALL LIGATURE A IE
pCAPITAL LETTER IE WITH BREVE
pSMALL LETTER IE WITH BREVE
pCAPITAL LETTER SCHWA
pSMALL LETTER SCHWA
pCAPITAL LETTER SCHWA WITH DIAERESIS
pSMALL LETTER SCHWA WITH DIAERESIS
pCAPITAL LETTER ZHE WITH DIAERESIS
pSMALL LETTER ZHE WITH DIAERESIS
pCAPITAL LETTER ZE WITH DIAERESIS
pSMALL LETTER ZE WITH DIAERESIS
pCAPITAL LETTER ABKHASIAN DZE
pSMALL LETTER ABKHASIAN DZE
pCAPITAL LETTER I WITH MACRON
pSMALL LETTER I WITH MACRON
pCAPITAL LETTER I WITH DIAERESIS
pSMALL LETTER I WITH DIAERESIS
pCAPITAL LETTER O WITH DIAERESIS
pSMALL LETTER O WITH DIAERESIS
pCAPITAL LETTER BARRED O
pSMALL LETTER BARRED O
pCAPITAL LETTER BARRED O WITH DIAERESIS
pSMALL LETTER BARRED O WITH DIAERESIS
pCAPITAL LETTER E WITH DIAERESIS
pSMALL LETTER E WITH DIAERESIS
pCAPITAL LETTER U WITH MACRON
pSMALL LETTER U WITH MACRON
pCAPITAL LETTER U WITH DIAERESIS
pSMALL LETTER U WITH DIAERESIS
pCAPITAL LETTER U WITH DOUBLE ACUTE
pSMALL LETTER U WITH DOUBLE ACUTE
pCAPITAL LETTER CHE WITH DIAERESIS
pSMALL LETTER CHE WITH DIAERESIS
pCAPITAL LETTER GHE WITH DESCENDER
pSMALL LETTER GHE WITH DESCENDER
pCAPITAL LETTER YERU WITH DIAERESIS
pSMALL LETTER YERU WITH DIAERESIS
pCAPITAL LETTER GHE WITH STROKE AND HOOK
pSMALL LETTER GHE WITH STROKE AND HOOK
pCAPITAL LETTER HA WITH HOOK
pSMALL LETTER HA WITH HOOK
pCAPITAL LETTER HA WITH STROKE
pSMALL LETTER HA WITH STROKE
pCAPITAL LETTER KOMI DE
pSMALL LETTER KOMI DE
pCAPITAL LETTER KOMI DJE
pSMALL LETTER KOMI DJE
pCAPITAL LETTER KOMI ZJE
pSMALL LETTER KOMI ZJE
pCAPITAL LETTER KOMI DZJE
pSMALL LETTER KOMI DZJE
pCAPITAL LETTER KOMI LJE
pSMALL LETTER KOMI LJE
pCAPITAL LETTER KOMI NJE
pSMALL LETTER KOMI NJE
pCAPITAL LETTER KOMI SJE
pSMALL LETTER KOMI SJE
pCAPITAL LETTER KOMI TJE
pSMALL LETTER KOMI TJE
pCAPITAL LETTER REVERSED ZE
pSMALL LETTER REVERSED ZE
pCAPITAL LETTER EL WITH HOOK
pSMALL LETTER EL WITH HOOK
pCAPITAL LETTER LHA
pSMALL LETTER LHA
pCAPITAL LETTER RHA
pSMALL LETTER RHA
pCAPITAL LETTER YAE
pSMALL LETTER YAE
pCAPITAL LETTER QA
pSMALL LETTER QA
pCAPITAL LETTER WE
pSMALL LETTER WE
pCAPITAL LETTER ALEUT KA
pSMALL LETTER ALEUT KA
pCAPITAL LETTER EL WITH MIDDLE HOOK
pSMALL LETTER EL WITH MIDDLE HOOK
pCAPITAL LETTER EN WITH MIDDLE HOOK
pSMALL LETTER EN WITH MIDDLE HOOK
pCAPITAL LETTER PE WITH DESCENDER
pSMALL LETTER PE WITH DESCENDER
pCAPITAL LETTER SHHA WITH DESCENDER
pSMALL LETTER SHHA WITH DESCENDER
pCAPITAL LETTER EN WITH LEFT HOOK
pSMALL LETTER EN WITH LEFT HOOK
pCAPITAL LETTER DZZHE
pSMALL LETTER DZZHE
pCAPITAL LETTER DCHE
pSMALL LETTER DCHE
pCAPITAL LETTER EL WITH DESCENDER
pSMALL LETTER EL WITH DESCENDER
2gARMENIAN CAPITAL LETTER AYB
zTTER BEN
zTTER GIM
zTTER DA
zTTER ECH
zTTER ZA
zTTER EH
zTTER ET
zTTER TO
zTTER ZHE
zTTER INI
zTTER LIWN
zTTER XEH
zTTER CA
zTTER KEN
zTTER HO
zTTER JA
zTTER GHAD
zTTER CHEH
zTTER MEN
zTTER YI
zTTER NOW
zTTER SHA
zTTER VO
zTTER CHA
zTTER PEH
zTTER JHEH
zTTER RA
zTTER SEH
zTTER VEW
zTTER TIWN
zTTER REH
zTTER CO
zTTER YIWN
zTTER PIWR
zTTER KEH
zTTER OH
zTTER FEH
3pMODIFIER LETTER LEFT HALF RING
pAPOSTROPHE
pEMPHASIS MARK
qXCLAMATION MARK
pCOMMA
pQUESTION MARK
pABBREVIATION MARK
pSMALL LETTER TURNED AYB
zER AYB
zER BEN
zER GIM
zER DA
zER ECH
zER ZA
zER EH
zER ET
zER TO
zER ZHE
zER INI
zER LIWN
zER XEH
zER CA
zER KEN
zER HO
zER JA
zER GHAD
zER CHEH
zER MEN
zER YI
zER NOW
zER SHA
zER VO
zER CHA
zER PEH
zER JHEH
zER RA
zER SEH
zER VEW
zER TIWN
zER REH
zER CO
zER YIWN
zER PIWR
zER KEH
zER OH
zER FEH
wIGATURE ECH YIWN
wETTER YI WITH STROKE
pFULL STOP
pHYPHEN
3gRIGHT-FACING ARMENIAN ETERNITY SIGN
gLEFT-FACING ARMENIAN ETERNITY SIGN
gARMENIAN DRAM SIGN
2gHEBREW ACCENT ETNAHTA
uSEGOL
vHALSHELET
uZAQEF QATAN
z GADOL
uTIPEHA
uREVIA
uZARQA
uPASHTA
uYETIV
uTEVIR
uGERESH
zH MUQDAM
xSHAYIM
uQARNEY PARA
uTELISHA GEDOLA
uPAZER
uATNAH HAFUKH
uMUNAH
vAHAPAKH
vERKHA
zA KEFULA
uDARGA
uQADMA
uTELISHA QETANA
uYERAH BEN YOMO
uOLE
uILUY
uDEHI
uZINOR
nMARK MASORA CIRCLE
nPOINT SHEVA
tHATAF SEGOL
zPATAH
zQAMATS
uIRIQ
tTSERE
tSEGOL
tPATAH
tQAMATS
tHOLAM
y HASER FOR VAV
tQUBUTS
tDAGESH OR MAPIQ
tMETEG
oUNCTUATION MAQAF
oOINT RAFE
oUNCTUATION PASEQ
oOINT SHIN DOT
uIN DOT
oUNCTUATION SOF PASUQ
nMARK UPPER DOT
sLOWER DOT
nPUNCTUATION NUN HAFUKHA
oOINT QAMATS QATAN
9nLETTER ALEF
uBET
uGIMEL
uDALET
uHE
uVAV
uZAYIN
uHET
uTET
uYOD
uFINAL KAF
uKAF
uLAMED
uFINAL MEM
uMEM
uFINAL NUN
uNUN
uSAMEKH
uAYIN
uFINAL PE
uPE
uFINAL TSADI
uTSADI
uQOF
uRESH
uSHIN
uTAV
5nYOD TRIANGLE
nLIGATURE YIDDISH DOUBLE VAV
zDISH VAV YOD
zDISH DOUBLE YOD
nPUNCTUATION GERESH
zGERSHAYIM
cgARABIC NUMBER SIGN
nSIGN SANAH
nFOOTNOTE MARKER
nSIGN SAFHA
uMVAT
nNUMBER MARK ABOVE
m-INDIC CUBE ROOT
tFOURTH ROOT
m RAY
m-INDIC PER MILLE SIGN
xTEN THOUSAND SIGN
hFGHANI SIGN
hRABIC COMMA
nDATE SEPARATOR
nPOETIC VERSE SIGN
nSIGN MISRA
sSALLALLAHOU ALAYHE WASSALLAM
sALAYHE ASSALLAM
sRAHMATULLAH ALAYHE
uDI ALLAHOU ANHU
sTAKHALLUS
oMALL HIGH TAH
yLIGATURE ALEF WITH LAM WITH YEH
0zIGATURE ALEF WITH YEH BARREE
yZAIN
tFATHA
tDAMMA
tKASRA
oEMICOLON
hLM
0hRABIC LETTER MARK
nEND OF TEXT MARK
nTRIPLE DOT PUNCTUATION MARK
nQUESTION MARK
nLETTER KASHMIRI YEH
uHAMZA
uALEF WITH MADDA ABOVE
zWITH HAMZA ABOVE
uWAW WITH HAMZA ABOVE
uALEF WITH HAMZA BELOW
uYEH WITH HAMZA ABOVE
uALEF
uBEH
uTEH MARBUTA
x
vHEH
uJEEM
uHAH
uKHAH
uDAL
uTHAL
uREH
uZAIN
uSEEN
vHEEN
vAD
uDAD
uTAH
uZAH
uAIN
uGHAIN
uKEHEH WITH TWO DOTS ABOVE
z WITH THREE DOTS BELOW
uFARSI YEH WITH INVERTED V
z YEH WITH TWO DOTS ABOVE
z YEH WITH THREE DOTS ABOVE
nTATWEEL
nLETTER FEH
uQAF
uKAF
uLAM
uMEEM
uNOON
uHEH
uWAW
uALEF MAKSURA
uYEH
nFATHATAN
nDAMMATAN
nKASRATAN
nFATHA
nDAMMA
nKASRA
nSHADDA
oUKUN
nMADDAH ABOVE
nHAMZA ABOVE
tBELOW
nSUBSCRIPT ALEF
nINVERTED DAMMA
nMARK NOON GHUNNA
nZWARAKAY
nVOWEL SIGN SMALL V ABOVE
yINVERTED SMALL V ABOVE
yDOT BELOW
nREVERSED DAMMA
nFATHA WITH TWO DOTS
nWAVY HAMZA BELOW
m-INDIC DIGIT ZERO
zONE
zTWO
zTHREE
zFOUR
zFIVE
zSIX
zSEVEN
zEIGHT
zNINE
m PERCENT SIGN
nDECIMAL SEPARATOR
nTHOUSANDS SEPARATOR
nFIVE POINTED STAR
nLETTER DOTLESS BEH
zSS QAF
uSUPERSCRIPT ALEF
uALEF WASLA
zWITH WAVY HAMZA ABOVE
zWITH WAVY HAMZA BELOW
uHIGH HAMZA
zHAMZA ALEF
zHAMZA WAW
uU WITH HAMZA ABOVE
uHIGH HAMZA YEH
uTTEH
yEH
uBEEH
uTEH WITH RING
zITH THREE DOTS ABOVE DOWNWARDS
uPEH
uTEHEH
uBEHEH
uHAH WITH HAMZA ABOVE
zITH TWO DOTS VERTICAL ABOVE
uNYEH
uDYEH
uHAH WITH THREE DOTS ABOVE
uTCHEH
zEH
uDDAL
vAL WITH RING
zITH DOT BELOW
zITH DOT BELOW AND SMALL TAH
wHAL
vDAHAL
vUL
vAL WITH THREE DOTS ABOVE DOWNWARDS
zITH FOUR DOTS ABOVE
uRREH
vEH WITH SMALL V
zITH RING
zITH DOT BELOW
zITH SMALL V BELOW
zITH DOT BELOW AND DOT ABOVE
zITH TWO DOTS ABOVE
uJEH
uREH WITH FOUR DOTS ABOVE
uSEEN WITH DOT BELOW AND DOT ABOVE
zWITH THREE DOTS BELOW
zWITH THREE DOTS BELOW AND THREE DOTS ABOVE
vAD WITH TWO DOTS BELOW
zITH THREE DOTS ABOVE
uTAH WITH THREE DOTS ABOVE
uAIN WITH THREE DOTS ABOVE
uDOTLESS FEH
uFEH WITH DOT MOVED BELOW
zITH DOT BELOW
uVEH
uFEH WITH THREE DOTS BELOW
uPEHEH
uQAF WITH DOT ABOVE
zITH THREE DOTS ABOVE
uKEHEH
uSWASH KAF
uKAF WITH RING
zITH DOT ABOVE
uNG
uKAF WITH THREE DOTS BELOW
uGAF
x WITH RING
uNGOEH
uGAF WITH TWO DOTS BELOW
vUEH
vAF WITH THREE DOTS ABOVE
uLAM WITH SMALL V
zITH DOT ABOVE
zITH THREE DOTS ABOVE
zITH THREE DOTS BELOW
uNOON WITH DOT BELOW
zGHUNNA
uRNOON
uNOON WITH RING
zWITH THREE DOTS ABOVE
uHEH DOACHASHMEE
uTCHEH WITH DOT ABOVE
uHEH WITH YEH ABOVE
yGOAL
zOAL WITH HAMZA ABOVE
uTEH MARBUTA GOAL
uWAW WITH RING
uKIRGHIZ OE
uOE
uU
uYU
uKIRGHIZ YU
uWAW WITH TWO DOTS ABOVE
uVE
uFARSI YEH
uYEH WITH TAIL
zITH SMALL V
uWAW WITH DOT ABOVE
uE
uYEH WITH THREE DOTS BELOW
yBARREE
zARREE WITH HAMZA ABOVE
nFULL STOP
nLETTER AE
nSMALL HIGH LIGATURE SAD WITH LAM WITH ALEF MAKSURA
zIGATURE QAF WITH LAM WITH ALEF MAKSURA
yMEEM INITIAL FORM
yLAM ALEF
yJEEM
yTHREE DOTS
ySEEN
nEND OF AYAH
nSTART OF RUB EL HIZB
oMALL HIGH ROUNDED ZERO
yUPRIGHT RECTANGULAR ZERO
yDOTLESS HEAD OF KHAH
yMEEM ISOLATED FORM
tLOW SEEN
tHIGH MADDA
tWAW
tYEH
tHIGH YEH
yNOON
nPLACE OF SAJDAH
nEMPTY CENTRE LOW STOP
z HIGH STOP
nROUNDED HIGH STOP WITH FILLED CENTRE
nSMALL LOW MEEM
nLETTER DAL WITH INVERTED V
uREH WITH INVERTED V
gEXTENDED ARABIC-INDIC DIGIT ZERO
zIC DIGIT ONE
zIC DIGIT TWO
zIC DIGIT THREE
zIC DIGIT FOUR
zIC DIGIT FIVE
zIC DIGIT SIX
zIC DIGIT SEVEN
zIC DIGIT EIGHT
zIC DIGIT NINE
gARABIC LETTER SHEEN WITH DOT BELOW
uDAD WITH DOT BELOW
uGHAIN WITH DOT BELOW
nSIGN SINDHI AMPERSAND
zPOSTPOSITION MEN
nLETTER HEH WITH INVERTED V
gSYRIAC END OF PARAGRAPH
nSUPRALINEAR FULL STOP
pBLINEAR FULL STOP
pPRALINEAR COLON
pBLINEAR COLON
nHORIZONTAL COLON
nCOLON SKEWED LEFT
z RIGHT
nSUPRALINEAR COLON SKEWED LEFT
pBLINEAR COLON SKEWED LEFT
0zLON SKEWED RIGHT
nCONTRACTION
nHARKLEAN OBELUS
wMETOBELUS
wASTERISCUS
2nABBREVIATION MARK
nLETTER ALAPH
uSUPERSCRIPT ALAPH
uBETH
uGAMAL
z GARSHUNI
uDALATH
vOTLESS DALATH RISH
uHE
uWAW
uZAIN
uHETH
uTETH
y GARSHUNI
uYUDH
y HE
uKAPH
uLAMADH
uMIM
uNUN
uSEMKATH
uFINAL SEMKATH
uE
uPE
uREVERSED PE
uSADHE
uQAPH
uRISH
uSHIN
uTAW
uPERSIAN BHETH
zAN GHAMAL
zAN DHALATH
nPTHAHA ABOVE
uBELOW
uDOTTED
nZQAPHA ABOVE
uBELOW
uDOTTED
nRBASA ABOVE
tBELOW
nDOTTED ZLAMA HORIZONTAL
z ANGULAR
nHBASA ABOVE
tBELOW
s-ESASA DOTTED
nESASA ABOVE
tBELOW
nRWAHA
nFEMININE DOT
nQUSHSHAYA
nRUKKAKHA
nTWO VERTICAL DOTS ABOVE
z DOTS BELOW
oHREE DOTS ABOVE
yBELOW
nOBLIQUE LINE ABOVE
z BELOW
nMUSIC
nBARREKH
3nLETTER SOGDIAN ZHAIN
zAN KHAPH
zAN FE
gARABIC LETTER BEH WITH THREE DOTS HORIZONTALLY BELOW
zITH DOT BELOW AND THREE DOTS ABOVE
zITH THREE DOTS POINTING UPWARDS BELOW
zITH THREE DOTS POINTING UPWARDS BELOW AND TWO DOTS ABOVE
zITH TWO DOTS BELOW AND DOT ABOVE
zITH INVERTED SMALL V BELOW
zITH SMALL V
uHAH WITH TWO DOTS ABOVE
zITH THREE DOTS POINTING UPWARDS BELOW
uDAL WITH TWO DOTS VERTICALLY BELOW AND SMALL TAH
zITH INVERTED SMALL V BELOW
uREH WITH STROKE
uSEEN WITH FOUR DOTS ABOVE
uAIN WITH TWO DOTS ABOVE
zITH THREE DOTS POINTING DOWNWARDS ABOVE
zITH TWO DOTS VERTICALLY ABOVE
uFEH WITH TWO DOTS BELOW
zITH THREE DOTS POINTING UPWARDS BELOW
uKEHEH WITH DOT ABOVE
z WITH THREE DOTS ABOVE
z WITH THREE DOTS POINTING UPWARDS BELOW
uMEEM WITH DOT ABOVE
zWITH DOT BELOW
uNOON WITH TWO DOTS BELOW
zWITH SMALL TAH
zWITH SMALL V
uLAM WITH BAR
uREH WITH TWO DOTS VERTICALLY ABOVE
zITH HAMZA ABOVE
uSEEN WITH TWO DOTS VERTICALLY ABOVE
uHAH WITH SMALL ARABIC LETTER TAH BELOW
zITH SMALL ARABIC LETTER TAH AND TWO DOTS
uSEEN WITH SMALL ARABIC LETTER TAH AND TWO DOTS
uREH WITH SMALL ARABIC LETTER TAH AND TWO DOTS
uHAH WITH SMALL ARABIC LETTER TAH ABOVE
uALEF WITH EXTENDED ARABIC-INDIC DIGIT TWO ABOVE
zWITH EXTENDED ARABIC-INDIC DIGIT THREE ABOVE
uFARSI YEH WITH EXTENDED ARABIC-INDIC DIGIT TWO ABOVE
z YEH WITH EXTENDED ARABIC-INDIC DIGIT THREE ABOVE
z YEH WITH EXTENDED ARABIC-INDIC DIGIT FOUR BELOW
uWAW WITH EXTENDED ARABIC-INDIC DIGIT TWO ABOVE
zITH EXTENDED ARABIC-INDIC DIGIT THREE ABOVE
uYEH BARREE WITH EXTENDED ARABIC-INDIC DIGIT TWO ABOVE
zARREE WITH EXTENDED ARABIC-INDIC DIGIT THREE ABOVE
uHAH WITH EXTENDED ARABIC-INDIC DIGIT FOUR BELOW
uSEEN WITH EXTENDED ARABIC-INDIC DIGIT FOUR ABOVE
zWITH INVERTED V
uKAF WITH TWO DOTS ABOVE
gTHAANA LETTER HAA
uSHAVIYANI
uNOONU
uRAA
uBAA
uLHAVIYANI
uKAAFU
uALIFU
uVAAVU
uMEEMU
uFAAFU
uDHAALU
uTHAA
uLAAMU
uGAAFU
vNAVIYANI
uSEENU
uDAVIYANI
uZAVIYANI
uTAVIYANI
uYAA
uPAVIYANI
uJAVIYANI
uCHAVIYANI
uTTAA
uHHAA
uKHAA
uTHAALU
uZAA
uSHEENU
vAADHU
uDAADHU
uTO
uZO
uAINU
uGHAINU
uQAAFU
uWAAVU
nABAFILI
oABAAFILI
nIBIFILI
nEEBEEFILI
nUBUFILI
nOOBOOFILI
nEBEFILI
oYBEYFILI
nOBOFILI
oABOAFILI
nSUKUN
nLETTER NAA
fgNKO DIGIT ZERO
qONE
qTWO
rHREE
qFOUR
rIVE
qSIX
rEVEN
qEIGHT
qNINE
kLETTER A
rEE
rI
rE
rU
rOO
s
rDAGBASINNA
rN
rBA
rPA
rTA
rJA
rCHA
rDA
rRA
sRA
rSA
rGBA
rFA
rKA
rLA
rNA WOLOSO
rMA
rNYA
sA
rHA
rWA
rYA
rNYA WOLOSO
rJONA JA
wCHA
wRA
kCOMBINING SHORT HIGH TONE
z LOW TONE
z RISING TONE
uLONG DESCENDING TONE
zHIGH TONE
zLOW TONE
zRISING TONE
uNASALIZATION MARK
uDOUBLE DOT ABOVE
kHIGH TONE APOSTROPHE
kLOW TONE APOSTROPHE
kSYMBOL OO DENNEN
rGBAKURUNEN
kCOMMA
kEXCLAMATION MARK
kLAJANYALAN
3kDANTAYALAN
lOROME SIGN
kTAMAN SIGN
gSAMARITAN LETTER ALAF
xBIT
xGAMAN
xDALAT
xIY
xBAA
xZEN
xIT
xTIT
xYUT
xKAAF
xLABAT
xMIM
xNUN
xSINGAAT
xIN
xFI
xTSAADIY
xQUF
xRISH
xSHAN
xTAAF
qMARK IN
x-ALAF
vOCCLUSION
vDAGESH
rODIFIER LETTER EPENTHETIC YUT
rARK EPENTHETIC YUT
qVOWEL SIGN LONG E
zN E
zN OVERLONG AA
zN LONG AA
zN AA
zN OVERLONG A
zN LONG A
zN A
qMODIFIER LETTER SHORT A
qVOWEL SIGN SHORT A
zN LONG U
zN U
qMODIFIER LETTER I
qVOWEL SIGN LONG I
zN I
zN O
zN SUKUN
qMARK NEQUDAA
3qPUNCTUATION NEQUDAA
zON AFSAAQ
zON ANGED
zON BAU
zON ATMAAU
zON SHIYYAALAA
qABBREVIATION MARK
qPUNCTUATION MELODIC QITSA
zON ZIQAA
zON QITSA
zON ZAEF
zON TURU
zON ARKAANU
zON SOF MASHFAAT
zON ANNAAU
2gMANDAIC LETTER HALQA
vAB
wG
wD
wH
vUSHENNA
vAZ
vIT
vATT
wKSA
x
wL
wM
wN
wS
vIN
vAP
wSZ
wQ
wR
wSH
wT
vDUSHENNA
vKAD
vAIN
oAFFRICATION MARK
oVOCALIZATION MARK
oGEMINATION MARK
3oPUNCTUATION
2gSYRIAC LETTER MALAYALAM NGA
zALAM JA
zALAM NYA
zALAM TTA
zALAM NNA
zALAM NNNA
zALAM BHA
zALAM RA
zALAM LLA
zALAM LLLA
zALAM SSA
6gARABIC LETTER ALEF WITH ATTACHED FATHA
zWITH ATTACHED TOP RIGHT FATHA
zWITH RIGHT MIDDLE STROKE
zWITH LEFT MIDDLE STROKE
zWITH ATTACHED KASRA
zWITH ATTACHED BOTTOM RIGHT KASRA
zWITH ATTACHED ROUND DOT ABOVE
zWITH ATTACHED RIGHT ROUND DOT
zWITH ATTACHED LEFT ROUND DOT
zWITH ATTACHED ROUND DOT BELOW
zWITH DOT ABOVE
zWITH ATTACHED TOP RIGHT FATHA AND DOT ABOVE
zWITH RIGHT MIDDLE STROKE AND DOT ABOVE
zWITH ATTACHED BOTTOM RIGHT KASRA AND DOT ABOVE
zWITH ATTACHED TOP RIGHT FATHA AND LEFT RING
zWITH RIGHT MIDDLE STROKE AND LEFT RING
zWITH ATTACHED BOTTOM RIGHT KASRA AND LEFT RING
zWITH ATTACHED RIGHT HAMZA
zWITH ATTACHED LEFT HAMZA
nTATWEEL WITH OVERSTRUCK HAMZA
z OVERSTRUCK WAW
z TWO DOTS BELOW
nLETTER THIN YEH
nBASELINE ROUND DOT
nRAISED ROUND DOT
nLETTER NOON WITH INVERTED SMALL V
uHAH WITH INVERTED SMALL V BELOW
uTAH WITH DOT BELOW
zITH THREE DOTS BELOW
uKEHEH WITH TWO DOTS VERTICALLY BELOW
nVERTICAL TAIL
2nPOUND MARK ABOVE
oIASTRE MARK ABOVE
7nSMALL HIGH WORD AL-JUZ
tLOW WORD ISHMAAM
zRD IMAALA
zRD TASHEEL
nMADDA WAAJIB
nSUPERSCRIPT ALEF MOKHASSAS
nDOUBLED MADDA
nHALF MADDA OVER MADDA
nLETTER BEH WITH SMALL V BELOW
zITH HAMZA ABOVE
uJEEM WITH TWO DOTS ABOVE
uTAH WITH TWO DOTS ABOVE
uFEH WITH DOT BELOW AND THREE DOTS ABOVE
uQAF WITH DOT BELOW
uLAM WITH DOUBLE BAR
uMEEM WITH THREE DOTS ABOVE
uYEH WITH TWO DOTS BELOW AND HAMZA ABOVE
zITH TWO DOTS BELOW AND DOT ABOVE
uREH WITH LOOP
uWAW WITH DOT WITHIN
uROHINGYA YEH
uLOW ALEF
uDAL WITH THREE DOTS BELOW
uSAD WITH THREE DOTS BELOW
uGAF WITH INVERTED STROKE
uSTRAIGHT WAW
uZAIN WITH INVERTED V ABOVE
uAIN WITH THREE DOTS BELOW
uKAF WITH DOT BELOW
uQAF WITH DOT BELOW AND NO DOTS ABOVE
uBEH WITH SMALL MEEM ABOVE
uPEH WITH SMALL MEEM ABOVE
uTEH WITH SMALL TEH ABOVE
uREH WITH SMALL NOON ABOVE
uYEH WITH TWO DOTS BELOW AND SMALL NOON ABOVE
uAFRICAN FEH
zAN QAF
zAN NOON
uPEH WITH SMALL V
uTEH WITH SMALL V
vTEH WITH SMALL V
vCHEH WITH SMALL V
uKEHEH WITH SMALL V
uGHAIN WITH THREE DOTS ABOVE
uAFRICAN QAF WITH THREE DOTS ABOVE
uJEEM WITH THREE DOTS ABOVE
zWITH THREE DOTS BELOW
uLAM WITH SMALL ARABIC LETTER TAH ABOVE
uGRAF
nSMALL FARSI YEH
tHIGH FARSI YEH
yYEH BARREE WITH TWO DOTS BELOW
yWORD SAH
yZAH
nLARGE ROUND DOT ABOVE
zDOT BELOW
nSUKUN BELOW
nLARGE CIRCLE BELOW
tROUND DOT INSIDE CIRCLE BELOW
nSMALL LOW WAW
tHIGH WORD AR-RUB
ySAD
yAIN
yQAF
yNOON WITH KASRA
tLOW NOON WITH KASRA
tHIGH WORD ATH-THALATHA
zORD AS-SAJDA
zORD AN-NISF
zORD SAKTA
zORD QIF
zORD WAQFA
yFOOTNOTE MARKER
ySIGN SAFHA
nDISPUTED END OF AYAH
nTURNED DAMMA BELOW
nCURLY FATHA
tDAMMA
tKASRA
tFATHATAN
tDAMMATAN
tKASRATAN
nTONE ONE DOT ABOVE
sTWO DOTS ABOVE
sLOOP ABOVE
sONE DOT BELOW
sTWO DOTS BELOW
sLOOP BELOW
nOPEN FATHATAN
sDAMMATAN
sKASRATAN
nSMALL HIGH WAW
nFATHA WITH RING
yDOT ABOVE
nKASRA WITH DOT BELOW
nLEFT ARROWHEAD ABOVE
nRIGHT ARROWHEAD ABOVE
nLEFT ARROWHEAD BELOW
nRIGHT ARROWHEAD BELOW
nDOUBLE RIGHT ARROWHEAD ABOVE
z ARROWHEAD ABOVE WITH DOT
nRIGHT ARROWHEAD ABOVE WITH DOT
nDAMMA WITH DOT
nMARK SIDEWAYS NOON GHUNNA
gDEVANAGARI SIGN INVERTED CANDRABINDU
wCANDRABINDU
wANUSVARA
wVISARGA
rLETTER SHORT A
yA
zA
yI
zI
yU
zU
yVOCALIC R
zOCALIC L
yCANDRA E
ySHORT E
yE
yAI
yCANDRA O
ySHORT O
yO
yAU
yKA
zHA
yGA
zHA
yNGA
yCA
zHA
yJA
zHA
yNYA
yTTA
zTHA
yDDA
zDHA
yNNA
yTA
zHA
yDA
zHA
yNA
zNNA
yPA
zHA
yBA
zHA
yMA
yYA
yRA
zRA
yLA
zLA
zLLA
yVA
ySHA
zSA
zA
yHA
rVOWEL SIGN OE
zGN OOE
rSIGN NUKTA
wAVAGRAHA
rVOWEL SIGN AA
zGN I
zGN II
zGN U
zGN UU
zGN VOCALIC R
zGN VOCALIC RR
zGN CANDRA E
zGN SHORT E
zGN E
zGN AI
zGN CANDRA O
zGN SHORT O
zGN O
zGN AU
rSIGN VIRAMA
rVOWEL SIGN PRISHTHAMATRA E
zGN AW
rOM
rSTRESS SIGN UDATTA
zIGN ANUDATTA
rGRAVE ACCENT
rACUTE ACCENT
rVOWEL SIGN CANDRA LONG E
zGN UE
zGN UUE
rLETTER QA
yKHHA
yGHHA
yZA
yDDDHA
yRHA
yFA
yYYA
yVOCALIC RR
zOCALIC LL
rVOWEL SIGN VOCALIC L
zGN VOCALIC LL
rDANDA
sOUBLE DANDA
sIGIT ZERO
xONE
xTWO
yHREE
xFOUR
yIVE
xSIX
yEVEN
xEIGHT
xNINE
rABBREVIATION SIGN
rSIGN HIGH SPACING DOT
rLETTER CANDRA A
yOE
zOE
yAW
yUE
zUE
yMARWARI DDA
yZHA
yHEAVY YA
yGGA
yJJA
yGLOTTAL STOP
yDDDA
yBBA
gBENGALI ANJI
oSIGN CANDRABINDU
tANUSVARA
tVISARGA
2oLETTER A
wA
vI
wI
vU
wU
vVOCALIC R
zLIC L
3vE
vAI
3vO
vAU
vKA
wHA
vGA
wHA
vNGA
vCA
wHA
vJA
wHA
vNYA
vTTA
xHA
vDDA
xHA
vNNA
vTA
wHA
vDA
wHA
vNA
2vPA
wHA
vBA
wHA
vMA
vYA
vRA
2vLA
4vSHA
wSA
wA
vHA
3oSIGN NUKTA
tAVAGRAHA
oVOWEL SIGN AA
zI
zII
zU
zUU
zVOCALIC R
zVOCALIC RR
3zE
zAI
3zO
zAU
oSIGN VIRAMA
oLETTER KHANDA TA
9oAU LENGTH MARK
5oLETTER RRA
wHA
2vYYA
vVOCALIC RR
zLIC LL
oVOWEL SIGN VOCALIC L
zVOCALIC LL
3oDIGIT ZERO
uONE
uTWO
vHREE
uFOUR
vIVE
uSIX
vEVEN
uEIGHT
uNINE
oLETTER RA WITH MIDDLE DIAGONAL
zITH LOWER DIAGONAL
oRUPEE MARK
uSIGN
oCURRENCY NUMERATOR ONE
zMERATOR TWO
zMERATOR THREE
zMERATOR FOUR
zMERATOR ONE LESS THAN THE DENOMINATOR
xDENOMINATOR SIXTEEN
oISSHAR
oGANDA MARK
oLETTER VEDIC ANUSVARA
oABBREVIATION SIGN
oSANDHI MARK
3gGURMUKHI SIGN ADAK BINDI
uBINDI
uVISARGA
2pLETTER A
xA
wI
xI
wU
xU
5wEE
wAI
3wOO
wAU
wKA
xHA
wGA
xHA
wNGA
wCA
xHA
wJA
xHA
wNYA
wTTA
yHA
wDDA
yHA
wNNA
wTA
xHA
wDA
xHA
wNA
2wPA
xHA
wBA
xHA
wMA
wYA
wRA
2wLA
xLA
2wVA
wSHA
2xA
wHA
3pSIGN NUKTA
2pVOWEL SIGN AA
z I
z II
z U
z UU
5z EE
z AI
3z OO
z AU
pSIGN VIRAMA
4uUDAAT
8pLETTER KHHA
wGHHA
wZA
wRRA
2wFA
8pDIGIT ZERO
vONE
vTWO
wHREE
vFOUR
wIVE
vSIX
wEVEN
vEIGHT
vNINE
pTIPPI
pADDAK
pIRI
pURA
pEK ONKAR
pSIGN YAKASH
pABBREVIATION SIGN
biJARATI SIGN CANDRABINDU
uANUSVARA
uVISARGA
2pLETTER A
xA
wI
xI
wU
xU
wVOCALIC R
zALIC L
pVOWEL CANDRA E
2pLETTER E
wAI
pVOWEL CANDRA O
2pLETTER O
wAU
wKA
xHA
wGA
xHA
wNGA
wCA
xHA
wJA
xHA
wNYA
wTTA
yHA
wDDA
yHA
wNNA
wTA
xHA
wDA
xHA
wNA
2wPA
xHA
wBA
xHA
wMA
wYA
wRA
2wLA
xLA
2wVA
wSHA
xSA
xA
wHA
3pSIGN NUKTA
uAVAGRAHA
pVOWEL SIGN AA
z I
z II
z U
z UU
z VOCALIC R
z VOCALIC RR
z CANDRA E
2z E
z AI
z CANDRA O
2z O
z AU
pSIGN VIRAMA
3pOM
10pLETTER VOCALIC RR
zALIC LL
pVOWEL SIGN VOCALIC L
z VOCALIC LL
3pDIGIT ZERO
vONE
vTWO
wHREE
vFOUR
wIVE
vSIX
wEVEN
vEIGHT
vNINE
pABBREVIATION SIGN
pRUPEE SIGN
8pLETTER ZHA
pSIGN SUKUN
vHADDA
uMADDAH
uTHREE-DOT NUKTA ABOVE
uCIRCLE NUKTA ABOVE
uTWO-CIRCLE NUKTA ABOVE
2gORIYA SIGN CANDRABINDU
rANUSVARA
rVISARGA
2mLETTER A
uA
tI
uI
tU
uU
tVOCALIC R
zC L
3tE
tAI
3tO
tAU
tKA
uHA
tGA
uHA
tNGA
tCA
uHA
tJA
uHA
tNYA
tTTA
vHA
tDDA
vHA
tNNA
tTA
uHA
tDA
uHA
tNA
2tPA
uHA
tBA
uHA
tMA
tYA
tRA
2tLA
uLA
2tVA
tSHA
uSA
uA
tHA
3mSIGN NUKTA
rAVAGRAHA
mVOWEL SIGN AA
xI
yI
xU
yU
xVOCALIC R
zCALIC RR
3xE
xAI
3xO
xAU
mSIGN VIRAMA
8rOVERLINE
mAI LENGTH MARK
nU LENGTH MARK
5mLETTER RRA
uHA
2tYYA
tVOCALIC RR
zC LL
mVOWEL SIGN VOCALIC L
zCALIC LL
3mDIGIT ZERO
sONE
sTWO
tHREE
sFOUR
tIVE
sSIX
tEVEN
sEIGHT
sNINE
mISSHAR
mLETTER WA
mFRACTION ONE QUARTER
zHALF
vTHREE QUARTERS
vONE SIXTEENTH
zEIGHTH
vTHREE SIXTEENTHS
bgTAMIL SIGN ANUSVARA
rVISARGA
2mLETTER A
uA
tI
uI
tU
uU
4tE
uE
tAI
2tO
uO
tAU
tKA
4tNGA
tCA
2tJA
2tNYA
tTTA
4tNNA
tTA
4tNA
uNNA
tPA
4tMA
tYA
tRA
uRA
tLA
uLA
vLA
tVA
tSHA
uSA
uA
tHA
5mVOWEL SIGN AA
xI
yI
xU
yU
4xE
yE
xAI
2xO
yO
xAU
mSIGN VIRAMA
3mOM
7mAU LENGTH MARK
fmDIGIT ZERO
sONE
sTWO
tHREE
sFOUR
tIVE
sSIX
tEVEN
sEIGHT
sNINE
mNUMBER TEN
tONE HUNDRED
xTHOUSAND
mDAY SIGN
mMONTH SIGN
mYEAR SIGN
mDEBIT SIGN
mCREDIT SIGN
mAS ABOVE SIGN
mRUPEE SIGN
mNUMBER SIGN
6hELUGU SIGN COMBINING CANDRABINDU ABOVE
tANDRABINDU
sANUSVARA
sVISARGA
sCOMBINING ANUSVARA ABOVE
nLETTER A
vA
uI
vI
uU
vU
uVOCALIC R
zIC L
2uE
vE
uAI
2uO
vO
uAU
uKA
vHA
uGA
vHA
uNGA
uCA
vHA
uJA
vHA
uNYA
uTTA
wHA
uDDA
wHA
uNNA
uTA
vHA
uDA
vHA
uNA
2uPA
vHA
uBA
vHA
uMA
uYA
uRA
vRA
uLA
vLA
wLA
uVA
uSHA
vSA
vA
uHA
3nSIGN NUKTA
sAVAGRAHA
nVOWEL SIGN AA
yI
zI
yU
zU
yVOCALIC R
zOCALIC RR
2yE
zE
yAI
2yO
zO
yAU
nSIGN VIRAMA
8nLENGTH MARK
nAI LENGTH MARK
2nLETTER TSA
uDZA
uRRRA
3uNAKAARA POLLU
3uVOCALIC RR
zIC LL
nVOWEL SIGN VOCALIC L
zOCALIC LL
3nDIGIT ZERO
tONE
tTWO
uHREE
tFOUR
uIVE
tSIX
uEVEN
tEIGHT
tNINE
8nSIGN SIDDHAM
nFRACTION DIGIT ZERO FOR ODD POWERS OF FOUR
zIT ONE FOR ODD POWERS OF FOUR
zIT TWO FOR ODD POWERS OF FOUR
zIT THREE FOR ODD POWERS OF FOUR
zIT ONE FOR EVEN POWERS OF FOUR
zIT TWO FOR EVEN POWERS OF FOUR
zIT THREE FOR EVEN POWERS OF FOUR
nSIGN TUUMU
gKANNADA SIGN SPACING CANDRABINDU
tCANDRABINDU
tANUSVARA
tVISARGA
tSIDDHAM
oLETTER A
wA
vI
wI
vU
wU
vVOCALIC R
zLIC L
2vE
wE
vAI
2vO
wO
vAU
vKA
wHA
vGA
wHA
vNGA
vCA
wHA
vJA
wHA
vNYA
vTTA
xHA
vDDA
xHA
vNNA
vTA
wHA
vDA
wHA
vNA
2vPA
wHA
vBA
wHA
vMA
vYA
vRA
wRA
vLA
wLA
2vVA
vSHA
wSA
wA
vHA
3oSIGN NUKTA
tAVAGRAHA
oVOWEL SIGN AA
zI
zII
zU
zUU
zVOCALIC R
zVOCALIC RR
2zE
zEE
zAI
2zO
zOO
zAU
oSIGN VIRAMA
8oLENGTH MARK
oAI LENGTH MARK
7oLETTER NAKAARA POLLU
vFA
0vLLLA
2vVOCALIC RR
zLIC LL
oVOWEL SIGN VOCALIC L
zVOCALIC LL
3oDIGIT ZERO
uONE
uTWO
vHREE
uFOUR
vIVE
uSIX
vEVEN
uEIGHT
uNINE
2oSIGN JIHVAMULIYA
tUPADHMANIYA
tCOMBINING ANUSVARA ABOVE RIGHT
dgMALAYALAM SIGN COMBINING ANUSVARA ABOVE
wANDRABINDU
vANUSVARA
vVISARGA
qLETTER VEDIC ANUSVARA
xA
yA
xI
yI
xU
yU
xVOCALIC R
zCALIC L
2xE
yE
xAI
2xO
yO
xAU
xKA
yHA
xGA
yHA
xNGA
xCA
yHA
xJA
yHA
xNYA
xTTA
zHA
xDDA
zHA
xNNA
xTA
yHA
xDA
yHA
xNA
yNNA
xPA
yHA
xBA
yHA
xMA
xYA
xRA
yRA
xLA
yLA
zLA
xVA
xSHA
ySA
yA
xHA
xTTTA
qSIGN VERTICAL BAR VIRAMA
vCIRCULAR VIRAMA
vAVAGRAHA
qVOWEL SIGN AA
zN I
zN II
zN U
zN UU
zN VOCALIC R
zN VOCALIC RR
2zN E
zN EE
zN AI
2zN O
zN OO
zN AU
qSIGN VIRAMA
qLETTER DOT REPH
qSIGN PARA
5qLETTER CHILLU M
zILLU Y
zILLU LLL
qAU LENGTH MARK
qFRACTION ONE ONE-HUNDRED-AND-SIXTIETH
zONE FORTIETH
zTHREE EIGHTIETHS
zONE TWENTIETH
zONE TENTH
zTHREE TWENTIETHS
zONE FIFTH
qLETTER ARCHAIC II
xVOCALIC RR
zCALIC LL
qVOWEL SIGN VOCALIC L
zN VOCALIC LL
3qDIGIT ZERO
wONE
wTWO
xHREE
wFOUR
xIVE
wSIX
xEVEN
wEIGHT
wNINE
qNUMBER TEN
xONE HUNDRED
zE THOUSAND
qFRACTION ONE QUARTER
zONE HALF
zTHREE QUARTERS
zONE SIXTEENTH
zONE EIGHTH
zTHREE SIXTEENTHS
qDATE MARK
qLETTER CHILLU NN
zILLU N
zILLU RR
zILLU L
zILLU LL
zILLU K
2gSINHALA SIGN CANDRABINDU
tANUSVARAYA
tVISARGAYA
2oLETTER AYANNA
wAYANNA
wEYANNA
xEYANNA
vIYANNA
wIYANNA
vUYANNA
wUYANNA
vIRUYANNA
yUYANNA
wLUYANNA
yUYANNA
vEYANNA
wEYANNA
vAIYANNA
vOYANNA
wOYANNA
vAUYANNA
4wLPAPRAANA KAYANNA
vMAHAAPRAANA KAYANNA
vALPAPRAANA GAYANNA
vMAHAAPRAANA GAYANNA
vKANTAJA NAASIKYAYA
vSANYAKA GAYANNA
vALPAPRAANA CAYANNA
vMAHAAPRAANA CAYANNA
vALPAPRAANA JAYANNA
vMAHAAPRAANA JAYANNA
vTAALUJA NAASIKYAYA
zUJA SANYOOGA NAAKSIKYAYA
vSANYAKA JAYANNA
vALPAPRAANA TTAYANNA
vMAHAAPRAANA TTAYANNA
vALPAPRAANA DDAYANNA
vMAHAAPRAANA DDAYANNA
wUURDHAJA NAYANNA
vSANYAKA DDAYANNA
vALPAPRAANA TAYANNA
vMAHAAPRAANA TAYANNA
vALPAPRAANA DAYANNA
vMAHAAPRAANA DAYANNA
vDANTAJA NAYANNA
2vSANYAKA DAYANNA
vALPAPRAANA PAYANNA
vMAHAAPRAANA PAYANNA
vALPAPRAANA BAYANNA
vMAHAAPRAANA BAYANNA
xYANNA
vAMBA BAYANNA
vYAYANNA
vRAYANNA
2vDANTAJA LAYANNA
3vVAYANNA
vTAALUJA SAYANNA
vMUURDHAJA SAYANNA
vDANTAJA SAYANNA
vHAYANNA
vMUURDHAJA LAYANNA
vFAYANNA
4oSIGN AL-LAKUNA
5oVOWEL SIGN AELA-PILLA
zKETTI AEDA-PILLA
zDIGA AEDA-PILLA
zKETTI IS-PILLA
zDIGA IS-PILLA
zKETTI PAA-PILLA
2zDIGA PAA-PILLA
2zGAETTA-PILLA
zKOMBUVA
zDIGA KOMBUVA
zKOMBU DEKA
zKOMBUVA HAA AELA-PILLA
zKOMBUVA HAA DIGA AELA-PILLA
zKOMBUVA HAA GAYANUKITTA
zGAYANUKITTA
7oLITH DIGIT ZERO
zONE
zTWO
zTHREE
zFOUR
zFIVE
zSIX
zSEVEN
zEIGHT
zNINE
3oVOWEL SIGN DIGA GAETTA-PILLA
zDIGA GAYANUKITTA
oPUNCTUATION KUNDDALIYA
dgTHAI CHARACTER KO KAI
wHO KHAI
zKHUAT
zKHWAI
zKHON
zRAKHANG
vNGO NGU
vCHO CHAN
zCHING
zCHANG
vSO SO
vCHO CHOE
vYO YING
vDO CHADA
vTO PATAK
wHO THAN
zNANGMONTHO
zPHUTHAO
vNO NEN
vDO DEK
vTO TAO
wHO THUNG
zTHAHAN
zTHONG
vNO NU
vBO BAIMAI
vPO PLA
wHO PHUNG
vFO FA
vPHO PHAN
vFO FAN
vPHO SAMPHAO
vMO MA
vYO YAK
vRO RUA
wU
vLO LING
wU
vWO WAEN
vSO SALA
yRUSI
ySUA
vHO HIP
vLO CHULA
vO ANG
vHO NOKHUK
vPAIYANNOI
vSARA A
vMAI HAN-AKAT
vSARA AA
z AM
z I
z II
z UE
z UEE
z U
z UU
vPHINTHU
5mURRENCY SYMBOL BAHT
mHARACTER SARA E
z AE
z O
z AI MAIMUAN
z AI MAIMALAI
vLAKKHANGYAO
vMAIYAMOK
yTAIKHU
y EK
zTHO
zTRI
zCHATTAWA
vTHANTHAKHAT
vNIKHAHIT
vYAMAKKAN
vFONGMAN
lDIGIT ZERO
rONE
rTWO
sHREE
rFOUR
sIVE
rSIX
sEVEN
rEIGHT
rNINE
lCHARACTER ANGKHANKHU
vKHOMUT
26gLAO LETTER KO
sHO SUNG
2vTAM
2rPALI GHA
rNGO
rCO
rPALI CHA
rSO TAM
2rPALI JHA
rNYO
rPALI NYA
wTTA
yHA
wDDA
yHA
wNNA
rDO
rTO
sHO SUNG
vTAM
rPALI DHA
rNO
rBO
rPO
sHO SUNG
rFO FON
0uTAM
rPHO TAM
rFO FAY
0uSUNG
rPALI BHA
rMO
rYO
rLO LING
0rRO
2rLO
0t LOOT
2rWO
rSANSKRIT SHA
z SSA
sO SUNG
rHO SUNG
rPALI LLA
rO
rHO TAM
kELLIPSIS
kVOWEL SIGN A
vMAI KAN
vAA
wM
vI
wI
vY
wY
vU
wU
kSIGN PALI VIRAMA
kVOWEL SIGN MAI KON
kSEMIVOWEL SIGN LO
zNYO
3kVOWEL SIGN E
wI
vO
vAY
wI
2kKO LA
2kTONE MAI EK
tTHO
uI
tCATAWA
kCANCELLATION MARK
kNIGGAHITA
kYAMAKKAN
2kDIGIT ZERO
qONE
qTWO
rHREE
qFOUR
rIVE
qSIX
rEVEN
qEIGHT
qNINE
3kHO NO
nMO
kLETTER KHMU GO
wNYO
21gTIBETAN SYLLABLE OM
oMARK GTER YIG MGO TRUNCATED A
zIG MGO -UM RNAM BCAD MA
zIG MGO -UM GTER TSHEG MA
tINITIAL YIG MGO MDUN MA
tCLOSING YIG MGO SGAB MA
uARET YIG MGO PHUR SHAD MA
tYIG MGO TSHEG SHAD MA
tSBRUL SHAD
tBSKUR YIG MGO
uKA- SHOG YIG MGO
tINTERSYLLABIC TSHEG
tDELIMITER TSHEG BSTAR
tSHAD
tNYIS SHAD
tTSHEG SHAD
tNYIS TSHEG SHAD
tRIN CHEN SPUNGS SHAD
uGYA GRAM SHAD
tCARET -DZUD RTAGS ME LONG CAN
tGTER TSHEG
oLOGOTYPE SIGN CHAD RTAGS
zGN LHAG RTAGS
oASTROLOGICAL SIGN SGRA GCAN -CHAR RTAGS
zL SIGN -KHYUD PA
zL SIGN SDONG TSHUGS
oSIGN RDEL DKAR GCIG
zKAR GNYIS
zKAR GSUM
yNAG GCIG
zAG GNYIS
yDKAR RDEL NAG
oDIGIT ZERO
uONE
uTWO
vHREE
uFOUR
vIVE
uSIX
vEVEN
uEIGHT
uNINE
uHALF ONE
zTWO
zTHREE
zFOUR
zFIVE
zSIX
zSEVEN
zEIGHT
zNINE
zZERO
oMARK BSDUS RTAGS
tNGAS BZUNG NYI ZLA
tCARET -DZUD RTAGS BZHI MIG CAN
tNGAS BZUNG SGOR RTAGS
tCHE MGO
tTSA -PHRU
tGUG RTAGS GYON
zAGS GYAS
tANG KHANG GYON
zANG GYAS
oSIGN YAR TSHES
tMAR TSHES
oLETTER KA
wHA
vGA
wHA
vNGA
vCA
wHA
vJA
2vNYA
vTTA
xHA
vDDA
xHA
vNNA
vTA
wHA
vDA
wHA
vNA
vPA
wHA
vBA
wHA
vMA
vTSA
xHA
vDZA
xHA
vWA
vZHA
wA
v-A
vYA
vRA
vLA
vSHA
wSA
wA
vHA
vA
vKSSA
vFIXED-FORM RA
vKKA
vRRA
5oVOWEL SIGN AA
zI
zII
zU
zUU
zVOCALIC R
zVOCALIC RR
zVOCALIC L
zVOCALIC LL
zE
zEE
zO
zOO
oSIGN RJES SU NGA RO
uNAM BCAD
oVOWEL SIGN REVERSED I
zREVERSED II
oSIGN NYI ZLA NAA DA
tSNA LDAN
oMARK HALANTA
tPALUTA
oSIGN LCI RTAGS
tYANG RTAGS
tLCE TSA CAN
tMCHU CAN
tGRU CAN RGYINGS
xMED RGYINGS
tINVERTED MCHU CAN
pUBJOINED SIGN LCE TSA CAN
zIGN MCHU CAN
zIGN INVERTED MCHU CAN
yLETTER KA
zETTER KHA
zETTER GA
zETTER GHA
zETTER NGA
zETTER CA
zETTER CHA
zETTER JA
2zETTER NYA
zETTER TTA
zETTER TTHA
zETTER DDA
zETTER DDHA
zETTER NNA
zETTER TA
zETTER THA
zETTER DA
zETTER DHA
zETTER NA
zETTER PA
zETTER PHA
zETTER BA
zETTER BHA
zETTER MA
zETTER TSA
zETTER TSHA
zETTER DZA
zETTER DZHA
zETTER WA
zETTER ZHA
zETTER ZA
zETTER -A
zETTER YA
zETTER RA
zETTER LA
zETTER SHA
zETTER SSA
zETTER SA
zETTER HA
zETTER A
zETTER KSSA
zETTER FIXED-FORM WA
zETTER FIXED-FORM YA
zETTER FIXED-FORM RA
2oKU RU KHA
x BZHI MIG CAN
oCANTILLATION SIGN HEAVY BEAT
zN SIGN LIGHT BEAT
zN SIGN CANG TE-U
zN SIGN SBUB -CHAL
oSYMBOL DRIL BU
vRDO RJE
vPADMA GDAN
vRDO RJE RGYA GRAM
vPHUR PA
vNOR BU
zBU NYIS -KHYIL
zBU GSUM -KHYIL
zBU BZHI -KHYIL
2pIGN RDEL NAG RDEL DKAR
zAG GSUM
oMARK BKA- SHOG GI MGO RGYAN
0uSKA- SHOG GI MGO RGYAN
tMNYAM YIG GI MGO RGYAN
tNYIS TSHEG
tINITIAL BRDA RNYING YIG MGO MDUN MA
tCLOSING BRDA RNYING YIG MGO SGAB MA
gRIGHT-FACING SVASTI SIGN
gLEFT-FACING SVASTI SIGN
gRIGHT-FACING SVASTI SIGN WITH DOTS
gLEFT-FACING SVASTI SIGN WITH DOTS
gTIBETAN MARK LEADING MCHAN RTAGS
tTRAILING MCHAN RTAGS
26gMYANMAR LETTER KA
wHA
vGA
wHA
vNGA
vCA
wHA
vJA
wHA
vNYA
wNYA
vTTA
xHA
vDDA
xHA
vNNA
vTA
wHA
vDA
wHA
vNA
vPA
wHA
vBA
wHA
vMA
vYA
vRA
vLA
vWA
vSA
vHA
vLLA
vA
vSHAN A
vI
wI
vU
wU
vE
vMON E
vO
vAU
oVOWEL SIGN TALL AA
zAA
zI
zII
zU
zUU
zE
zAI
zMON II
zMON O
zE ABOVE
oSIGN ANUSVARA
tDOT BELOW
tVISARGA
vRAMA
tASAT
oCONSONANT SIGN MEDIAL YA
zIGN MEDIAL RA
zIGN MEDIAL WA
zIGN MEDIAL HA
oLETTER GREAT SA
oDIGIT ZERO
uONE
uTWO
vHREE
uFOUR
vIVE
uSIX
vEVEN
uEIGHT
uNINE
oSIGN LITTLE SECTION
tSECTION
pYMBOL LOCATIVE
vCOMPLETED
vAFOREMENTIONED
vGENITIVE
oLETTER SHA
wSA
vVOCALIC R
zLIC RR
zLIC L
zLIC LL
oVOWEL SIGN VOCALIC R
zVOCALIC RR
zVOCALIC L
zVOCALIC LL
oLETTER MON NGA
zJHA
zBBA
zBBE
oCONSONANT SIGN MON MEDIAL NA
zIGN MON MEDIAL MA
zIGN MON MEDIAL LA
oLETTER SGAW KAREN SHA
oVOWEL SIGN SGAW KAREN EU
oTONE MARK SGAW KAREN HATHI
zGAW KAREN KE PHO
oLETTER WESTERN PWO KAREN THA
zERN PWO KAREN PWA
oVOWEL SIGN WESTERN PWO KAREN EU
zWESTERN PWO KAREN UE
oSIGN WESTERN PWO KAREN TONE-1
zN PWO KAREN TONE-2
zN PWO KAREN TONE-3
zN PWO KAREN TONE-4
zN PWO KAREN TONE-5
oLETTER EASTERN PWO KAREN NNA
zERN PWO KAREN YWA
zERN PWO KAREN GHWA
oVOWEL SIGN GEBA KAREN I
zKAYAH OE
zKAYAH U
zKAYAH EE
oLETTER SHAN KA
z KHA
z GA
z CA
z ZA
z NYA
z DA
z NA
z PHA
z FA
z BA
z THA
z HA
oCONSONANT SIGN SHAN MEDIAL WA
oVOWEL SIGN SHAN AA
zSHAN E
zSHAN E ABOVE
zSHAN FINAL Y
oSIGN SHAN TONE-2
zONE-3
zONE-5
zONE-6
yCOUNCIL TONE-2
zOUNCIL TONE-3
zOUNCIL EMPHATIC TONE
oLETTER RUMAI PALAUNG FA
oSIGN RUMAI PALAUNG TONE-5
pHAN DIGIT ZERO
zONE
zTWO
zTHREE
zFOUR
zFIVE
zSIX
zSEVEN
zEIGHT
zNINE
pIGN KHAMTI TONE-1
z TONE-3
oVOWEL SIGN AITON A
zAITON AI
oSYMBOL SHAN ONE
z EXCLAMATION
gGEORGIAN CAPITAL LETTER AN
zTTER BAN
zTTER GAN
zTTER DON
zTTER EN
zTTER VIN
zTTER ZEN
zTTER TAN
zTTER IN
zTTER KAN
zTTER LAS
zTTER MAN
zTTER NAR
zTTER ON
zTTER PAR
zTTER ZHAR
zTTER RAE
zTTER SAN
zTTER TAR
zTTER UN
zTTER PHAR
zTTER KHAR
zTTER GHAN
zTTER QAR
zTTER SHIN
zTTER CHIN
zTTER CAN
zTTER JIL
zTTER CIL
zTTER CHAR
zTTER XAN
zTTER JHAN
zTTER HAE
zTTER HE
zTTER HIE
zTTER WE
zTTER HAR
zTTER HOE
2zTTER YN
6zTTER AEN
3pLETTER AN
wBAN
wGAN
wDON
wEN
wVIN
wZEN
wTAN
wIN
wKAN
wLAS
wMAN
wNAR
wON
wPAR
wZHAR
wRAE
wSAN
wTAR
wUN
wPHAR
wKHAR
wGHAN
wQAR
wSHIN
wCHIN
xAN
wJIL
wCIL
xHAR
wXAN
wJHAN
wHAE
xE
xIE
wWE
wHAR
xOE
wFI
wYN
wELIFI
wTURNED GAN
wAIN
pPARAGRAPH SEPARATOR
gMODIFIER LETTER GEORGIAN NAR
gGEORGIAN LETTER AEN
wHARD SIGN
wLABIAL SIGN
gHANGUL CHOSEONG KIYEOK
wSSANGKIYEOK
wNIEUN
wTIKEUT
wSSANGTIKEUT
wRIEUL
wMIEUM
wPIEUP
wSSANGPIEUP
xIOS
xSANGSIOS
wIEUNG
wCIEUC
wSSANGCIEUC
wCHIEUCH
wKHIEUKH
wTHIEUTH
wPHIEUPH
wHIEUH
wNIEUN-KIYEOK
wSSANGNIEUN
wNIEUN-TIKEUT
zUN-PIEUP
wTIKEUT-KIYEOK
wRIEUL-NIEUN
wSSANGRIEUL
wRIEUL-HIEUH
wKAPYEOUNRIEUL
wMIEUM-PIEUP
wKAPYEOUNMIEUM
wPIEUP-KIYEOK
zUP-NIEUN
zUP-TIKEUT
zUP-SIOS
zUP-SIOS-KIYEOK
zUP-SIOS-TIKEUT
zUP-SIOS-PIEUP
zUP-SSANGSIOS
zUP-SIOS-CIEUC
zUP-CIEUC
zUP-CHIEUCH
zUP-THIEUTH
zUP-PHIEUPH
wKAPYEOUNPIEUP
zYEOUNSSANGPIEUP
wSIOS-KIYEOK
zS-NIEUN
zS-TIKEUT
zS-RIEUL
zS-MIEUM
zS-PIEUP
zS-PIEUP-KIYEOK
zS-SSANGSIOS
zS-IEUNG
zS-CIEUC
zS-CHIEUCH
zS-KHIEUKH
zS-THIEUTH
zS-PHIEUPH
zS-HIEUH
wCHITUEUMSIOS
zTUEUMSSANGSIOS
xEONGCHIEUMSIOS
zNGCHIEUMSSANGSIOS
wPANSIOS
wIEUNG-KIYEOK
zNG-TIKEUT
zNG-MIEUM
zNG-PIEUP
zNG-SIOS
zNG-PANSIOS
wSSANGIEUNG
wIEUNG-CIEUC
zNG-CHIEUCH
zNG-THIEUTH
zNG-PHIEUPH
wYESIEUNG
wCIEUC-IEUNG
xHITUEUMCIEUC
zTUEUMSSANGCIEUC
xEONGCHIEUMCIEUC
zNGCHIEUMSSANGCIEUC
xHIEUCH-KHIEUKH
zEUCH-HIEUH
zTUEUMCHIEUCH
xEONGCHIEUMCHIEUCH
wPHIEUPH-PIEUP
wKAPYEOUNPHIEUPH
wSSANGHIEUH
wYEORINHIEUH
wKIYEOK-TIKEUT
wNIEUN-SIOS
zUN-CIEUC
zUN-HIEUH
wTIKEUT-RIEUL
wFILLER
nJUNGSEONG FILLER
xA
yE
xYA
zE
xEO
y
xYEO
z
xO
xWA
zE
xOE
xYO
xU
xWEO
z
yI
xYU
xEU
xYI
xI
xA-O
zU
xYA-O
z-YO
xEO-O
z-U
z-EU
xYEO-O
zO-U
xO-EO
zE
zYE
zO
zU
xYO-YA
z-YAE
z-YEO
z-O
z-I
xU-A
zAE
zEO-EU
zYE
zU
xYU-A
z-EO
z-E
z-YEO
z-YE
z-U
z-I
xEU-U
z-EU
xYI-U
xI-A
zYA
zO
zU
zEU
zARAEA
xARAEA
zAEA-EO
zAEA-U
zAEA-I
xSSANGARAEA
xA-EU
xYA-U
yEO-YA
xO-YA
zYAE
oONGSEONG KIYEOK
xSSANGKIYEOK
xKIYEOK-SIOS
xNIEUN
zEUN-CIEUC
zEUN-HIEUH
xTIKEUT
xRIEUL
zEUL-KIYEOK
zEUL-MIEUM
zEUL-PIEUP
zEUL-SIOS
zEUL-THIEUTH
zEUL-PHIEUPH
zEUL-HIEUH
xMIEUM
xPIEUP
zEUP-SIOS
xSIOS
ySANGSIOS
xIEUNG
xCIEUC
yHIEUCH
xKHIEUKH
xTHIEUTH
xPHIEUPH
xHIEUH
xKIYEOK-RIEUL
zYEOK-SIOS-KIYEOK
xNIEUN-KIYEOK
zEUN-TIKEUT
zEUN-SIOS
zEUN-PANSIOS
zEUN-THIEUTH
xTIKEUT-KIYEOK
zKEUT-RIEUL
xRIEUL-KIYEOK-SIOS
zEUL-NIEUN
zEUL-TIKEUT
zEUL-TIKEUT-HIEUH
xSSANGRIEUL
xRIEUL-MIEUM-KIYEOK
zEUL-MIEUM-SIOS
zEUL-PIEUP-SIOS
zEUL-PIEUP-HIEUH
zEUL-KAPYEOUNPIEUP
zEUL-SSANGSIOS
zEUL-PANSIOS
zEUL-KHIEUKH
zEUL-YEORINHIEUH
xMIEUM-KIYEOK
zEUM-RIEUL
zEUM-PIEUP
zEUM-SIOS
zEUM-SSANGSIOS
zEUM-PANSIOS
zEUM-CHIEUCH
zEUM-HIEUH
xKAPYEOUNMIEUM
xPIEUP-RIEUL
zEUP-PHIEUPH
zEUP-HIEUH
xKAPYEOUNPIEUP
xSIOS-KIYEOK
zOS-TIKEUT
zOS-RIEUL
zOS-PIEUP
xPANSIOS
xIEUNG-KIYEOK
0xYESIEUNG-KIYEOK
xIEUNG-SSANGKIYEOK
0xYESIEUNG-SSANGKIYEOK
xSSANGIEUNG
0zANGYESIEUNG
xIEUNG-KHIEUKH
0xYESIEUNG-KHIEUKH
zSIEUNG
zSIEUNG-SIOS
zSIEUNG-PANSIOS
xPHIEUPH-PIEUP
xKAPYEOUNPHIEUPH
xHIEUH-NIEUN
zEUH-RIEUL
zEUH-MIEUM
zEUH-PIEUP
xYEORINHIEUH
xKIYEOK-NIEUN
zYEOK-PIEUP
zYEOK-CHIEUCH
zYEOK-KHIEUKH
zYEOK-HIEUH
xSSANGNIEUN
gETHIOPIC SYLLABLE HA
zU
zI
zAA
zEE
zE
zO
zOA
yLA
zU
zI
zAA
zEE
zE
zO
zWA
yHHA
zHU
zHI
zHAA
zHEE
zHE
zHO
zHWA
yMA
zU
zI
zAA
zEE
zE
zO
zWA
ySZA
zZU
zZI
zZAA
zZEE
zZE
zZO
zZWA
yRA
zU
zI
zAA
zEE
zE
zO
zWA
ySA
zU
zI
zAA
zEE
zE
zO
zWA
zHA
zHU
zHI
zHAA
zHEE
zHE
zHO
zHWA
yQA
zU
zI
zAA
zEE
zE
zO
zOA
zWA
2zWI
zWAA
zWEE
zWE
3zHA
zHU
zHI
zHAA
zHEE
zHE
zHO
2zHWA
2zHWI
zHWAA
zHWEE
zHWE
3yBA
zU
zI
zAA
zEE
zE
zO
zWA
yVA
zU
zI
zAA
zEE
zE
zO
zWA
yTA
zU
zI
zAA
zEE
zE
zO
zWA
yCA
zU
zI
zAA
zEE
zE
zO
zWA
yXA
zU
zI
zAA
zEE
zE
zO
zOA
zWA
2zWI
zWAA
zWEE
zWE
3yNA
zU
zI
zAA
zEE
zE
zO
zWA
zYA
zYU
zYI
zYAA
zYEE
zYE
zYO
zYWA
yGLOTTAL A
zLOTTAL U
zLOTTAL I
zLOTTAL AA
zLOTTAL EE
zLOTTAL E
zLOTTAL O
zLOTTAL WA
yKA
zU
zI
zAA
zEE
zE
zO
zOA
zWA
2zWI
zWAA
zWEE
zWE
3zXA
zXU
zXI
zXAA
zXEE
zXE
zXO
2zXWA
2zXWI
zXWAA
zXWEE
zXWE
3yWA
zU
zI
zAA
zEE
zE
zO
zOA
yPHARYNGEAL A
zHARYNGEAL U
zHARYNGEAL I
zHARYNGEAL AA
zHARYNGEAL EE
zHARYNGEAL E
zHARYNGEAL O
2yZA
zU
zI
zAA
zEE
zE
zO
zWA
zHA
zHU
zHI
zHAA
zHEE
zHE
zHO
zHWA
yYA
zU
zI
zAA
zEE
zE
zO
zOA
yDA
zU
zI
zAA
zEE
zE
zO
zWA
zDA
zDU
zDI
zDAA
zDEE
zDE
zDO
zDWA
yJA
zU
zI
zAA
zEE
zE
zO
zWA
yGA
zU
zI
zAA
zEE
zE
zO
zOA
zWA
2zWI
zWAA
zWEE
zWE
3zGA
zGU
zGI
zGAA
zGEE
zGE
zGO
zGWAA
yTHA
zHU
zHI
zHAA
zHEE
zHE
zHO
zHWA
yCHA
zHU
zHI
zHAA
zHEE
zHE
zHO
zHWA
yPHA
zHU
zHI
zHAA
zHEE
zHE
zHO
zHWA
yTSA
zSU
zSI
zSAA
zSEE
zSE
zSO
zSWA
zZA
zZU
zZI
zZAA
zZEE
zZE
zZO
zZOA
yFA
zU
zI
zAA
zEE
zE
zO
zWA
yPA
zU
zI
zAA
zEE
zE
zO
zWA
yRYA
yMYA
yFYA
3pCOMBINING GEMINATION AND VOWEL LENGTH MARK
zVOWEL LENGTH MARK
zGEMINATION MARK
pSECTION MARK
pWORDSPACE
pFULL STOP
pCOMMA
pSEMICOLON
pCOLON
pPREFACE COLON
pQUESTION MARK
pPARAGRAPH SEPARATOR
pDIGIT ONE
vTWO
wHREE
vFOUR
wIVE
vSIX
wEVEN
vEIGHT
vNINE
pNUMBER TEN
xWENTY
xHIRTY
wFORTY
xIFTY
wSIXTY
xEVENTY
wEIGHTY
wNINETY
wHUNDRED
wTEN THOUSAND
4pSYLLABLE SEBATBEIT MWA
yMWI
zWEE
zWE
ySEBATBEIT BWA
yBWI
zWEE
zWE
ySEBATBEIT FWA
yFWI
zWEE
zWE
ySEBATBEIT PWA
yPWI
zWEE
zWE
pTONAL MARK YIZET
z DERET
z RIKRIK
z SHORT RIKRIK
z DIFAT
z KENAT
z CHIRET
z HIDET
z DERET-HIDET
z KURT
7gCHEROKEE LETTER A
wE
wI
wO
wU
wV
wGA
wKA
wGE
xI
xO
xU
xV
wHA
xE
xI
xO
xU
xV
wLA
xE
xI
xO
xU
xV
wMA
xE
xI
xO
xU
wNA
wHNA
wNAH
xE
xI
xO
xU
xV
wQUA
yE
yI
yO
yU
yV
wSA
x
xE
xI
xO
xU
xV
wDA
wTA
wDE
wTE
wDI
wTI
wDO
xU
xV
xLA
wTLA
yE
yI
yO
yU
yV
xSA
yE
yI
yO
yU
yV
wWA
xE
xI
xO
xU
xV
wYA
xE
xI
xO
xU
xV
wMV
3pSMALL LETTER YE
zER YI
zER YO
zER YU
zER YV
zER MV
3hANADIAN SYLLABICS HYPHEN
zE
zAAI
zI
zII
zO
zOO
zY-CREE OO
zCARRIER EE
zCARRIER I
zA
zAA
zWE
zWEST-CREE WE
zWI
zWEST-CREE WI
zWII
zWEST-CREE WII
zWO
zWEST-CREE WO
zWOO
zWEST-CREE WOO
zNASKAPI WOO
zWA
zWEST-CREE WA
zWAA
zWEST-CREE WAA
zNASKAPI WAA
zAI
zY-CREE W
zGLOTTAL STOP
zFINAL ACUTE
zFINAL GRAVE
zFINAL BOTTOM HALF RING
zFINAL TOP HALF RING
zFINAL RIGHT HALF RING
zFINAL RING
zFINAL DOUBLE ACUTE
zFINAL DOUBLE SHORT VERTICAL STROKES
zFINAL MIDDLE DOT
zFINAL SHORT HORIZONTAL STROKE
zFINAL PLUS
zFINAL DOWN TACK
zEN
zIN
zON
zAN
zPE
zPAAI
zPI
zPII
zPO
zPOO
zY-CREE POO
zCARRIER HEE
zCARRIER HI
zPA
zPAA
zPWE
zWEST-CREE PWE
zPWI
zWEST-CREE PWI
zPWII
zWEST-CREE PWII
zPWO
zWEST-CREE PWO
zPWOO
zWEST-CREE PWOO
zPWA
zWEST-CREE PWA
zPWAA
zWEST-CREE PWAA
zY-CREE PWAA
zP
zWEST-CREE P
zCARRIER H
zTE
zTAAI
zTI
zTII
zTO
zTOO
zY-CREE TOO
zCARRIER DEE
zCARRIER DI
zTA
zTAA
zTWE
zWEST-CREE TWE
zTWI
zWEST-CREE TWI
zTWII
zWEST-CREE TWII
zTWO
zWEST-CREE TWO
zTWOO
zWEST-CREE TWOO
zTWA
zWEST-CREE TWA
zTWAA
zWEST-CREE TWAA
zNASKAPI TWAA
zT
zTTE
zTTI
zTTO
zTTA
zKE
zKAAI
zKI
zKII
zKO
zKOO
zY-CREE KOO
zKA
zKAA
zKWE
zWEST-CREE KWE
zKWI
zWEST-CREE KWI
zKWII
zWEST-CREE KWII
zKWO
zWEST-CREE KWO
zKWOO
zWEST-CREE KWOO
zKWA
zWEST-CREE KWA
zKWAA
zWEST-CREE KWAA
zNASKAPI KWAA
zK
zKW
zSOUTH-SLAVEY KEH
zSOUTH-SLAVEY KIH
zSOUTH-SLAVEY KOH
zSOUTH-SLAVEY KAH
zCE
zCAAI
zCI
zCII
zCO
zCOO
zY-CREE COO
zCA
zCAA
zCWE
zWEST-CREE CWE
zCWI
zWEST-CREE CWI
zCWII
zWEST-CREE CWII
zCWO
zWEST-CREE CWO
zCWOO
zWEST-CREE CWOO
zCWA
zWEST-CREE CWA
zCWAA
zWEST-CREE CWAA
zNASKAPI CWAA
zC
zSAYISI TH
zME
zMAAI
zMI
zMII
zMO
zMOO
zY-CREE MOO
zMA
zMAA
zMWE
zWEST-CREE MWE
zMWI
zWEST-CREE MWI
zMWII
zWEST-CREE MWII
zMWO
zWEST-CREE MWO
zMWOO
zWEST-CREE MWOO
zMWA
zWEST-CREE MWA
zMWAA
zWEST-CREE MWAA
zNASKAPI MWAA
zM
zWEST-CREE M
zMH
zATHAPASCAN M
zSAYISI M
zNE
zNAAI
zNI
zNII
zNO
zNOO
zY-CREE NOO
zNA
zNAA
zNWE
zWEST-CREE NWE
zNWA
zWEST-CREE NWA
zNWAA
zWEST-CREE NWAA
zNASKAPI NWAA
zN
zCARRIER NG
zNH
zLE
zLAAI
zLI
zLII
zLO
zLOO
zY-CREE LOO
zLA
zLAA
zLWE
zWEST-CREE LWE
zLWI
zWEST-CREE LWI
zLWII
zWEST-CREE LWII
zLWO
zWEST-CREE LWO
zLWOO
zWEST-CREE LWOO
zLWA
zWEST-CREE LWA
zLWAA
zWEST-CREE LWAA
zL
zWEST-CREE L
zMEDIAL L
zSE
zSAAI
zSI
zSII
zSO
zSOO
zY-CREE SOO
zSA
zSAA
zSWE
zWEST-CREE SWE
zSWI
zWEST-CREE SWI
zSWII
zWEST-CREE SWII
zSWO
zWEST-CREE SWO
zSWOO
zWEST-CREE SWOO
zSWA
zWEST-CREE SWA
zSWAA
zWEST-CREE SWAA
zNASKAPI SWAA
zS
zATHAPASCAN S
zSW
zBLACKFOOT S
zMOOSE-CREE SK
zNASKAPI SKW
zNASKAPI S-W
zNASKAPI SPWA
zNASKAPI STWA
zNASKAPI SKWA
zNASKAPI SCWA
zSHE
zSHI
zSHII
zSHO
zSHOO
zSHA
zSHAA
zSHWE
zWEST-CREE SHWE
zSHWI
zWEST-CREE SHWI
zSHWII
zWEST-CREE SHWII
zSHWO
zWEST-CREE SHWO
zSHWOO
zWEST-CREE SHWOO
zSHWA
zWEST-CREE SHWA
zSHWAA
zWEST-CREE SHWAA
zSH
zYE
zYAAI
zYI
zYII
zYO
zYOO
zY-CREE YOO
zYA
zYAA
zYWE
zWEST-CREE YWE
zYWI
zWEST-CREE YWI
zYWII
zWEST-CREE YWII
zYWO
zWEST-CREE YWO
zYWOO
zWEST-CREE YWOO
zYWA
zWEST-CREE YWA
zYWAA
zWEST-CREE YWAA
zNASKAPI YWAA
zY
zBIBLE-CREE Y
zWEST-CREE Y
zSAYISI YI
zRE
zR-CREE RE
zWEST-CREE LE
zRAAI
zRI
zRII
zRO
zROO
zWEST-CREE LO
zRA
zRAA
zWEST-CREE LA
zRWAA
zWEST-CREE RWAA
zR
zWEST-CREE R
zMEDIAL R
zFE
zFAAI
zFI
zFII
zFO
zFOO
zFA
zFAA
zFWAA
zWEST-CREE FWAA
zF
zTHE
zN-CREE THE
zTHI
zN-CREE THI
zTHII
zN-CREE THII
zTHO
zTHOO
zTHA
zTHAA
zTHWAA
zWEST-CREE THWAA
zTH
zTTHE
zTTHI
zTTHO
zTTHA
zTTH
zTYE
zTYI
zTYO
zTYA
zNUNAVIK HE
zNUNAVIK HI
zNUNAVIK HII
zNUNAVIK HO
zNUNAVIK HOO
zNUNAVIK HA
zNUNAVIK HAA
zNUNAVIK H
zNUNAVUT H
zHK
zQAAI
zQI
zQII
zQO
zQOO
zQA
zQAA
zQ
zTLHE
zTLHI
zTLHO
zTLHA
zWEST-CREE RE
zWEST-CREE RI
zWEST-CREE RO
zWEST-CREE RA
zNGAAI
zNGI
zNGII
zNGO
zNGOO
zNGA
zNGAA
zNG
zNNG
zSAYISI SHE
zSAYISI SHI
zSAYISI SHO
zSAYISI SHA
zWOODS-CREE THE
zWOODS-CREE THI
zWOODS-CREE THO
zWOODS-CREE THA
zWOODS-CREE TH
zLHI
zLHII
zLHO
zLHOO
zLHA
zLHAA
zLH
zTH-CREE THE
zTH-CREE THI
zTH-CREE THII
zTH-CREE THO
zTH-CREE THOO
zTH-CREE THA
zTH-CREE THAA
zTH-CREE TH
zAIVILIK B
zBLACKFOOT E
zBLACKFOOT I
zBLACKFOOT O
zBLACKFOOT A
zBLACKFOOT WE
zBLACKFOOT WI
zBLACKFOOT WO
zBLACKFOOT WA
zBLACKFOOT NE
zBLACKFOOT NI
zBLACKFOOT NO
zBLACKFOOT NA
zBLACKFOOT KE
zBLACKFOOT KI
zBLACKFOOT KO
zBLACKFOOT KA
zSAYISI HE
zSAYISI HI
zSAYISI HO
zSAYISI HA
zCARRIER GHU
zCARRIER GHO
zCARRIER GHE
zCARRIER GHEE
zCARRIER GHI
zCARRIER GHA
zCARRIER RU
zCARRIER RO
zCARRIER RE
zCARRIER REE
zCARRIER RI
zCARRIER RA
zCARRIER WU
zCARRIER WO
zCARRIER WE
zCARRIER WEE
zCARRIER WI
zCARRIER WA
zCARRIER HWU
zCARRIER HWO
zCARRIER HWE
zCARRIER HWEE
zCARRIER HWI
zCARRIER HWA
zCARRIER THU
zCARRIER THO
zCARRIER THE
zCARRIER THEE
zCARRIER THI
zCARRIER THA
zCARRIER TTU
zCARRIER TTO
zCARRIER TTE
zCARRIER TTEE
zCARRIER TTI
zCARRIER TTA
zCARRIER PU
zCARRIER PO
zCARRIER PE
zCARRIER PEE
zCARRIER PI
zCARRIER PA
zCARRIER P
zCARRIER GU
zCARRIER GO
zCARRIER GE
zCARRIER GEE
zCARRIER GI
zCARRIER GA
zCARRIER KHU
zCARRIER KHO
zCARRIER KHE
zCARRIER KHEE
zCARRIER KHI
zCARRIER KHA
zCARRIER KKU
zCARRIER KKO
zCARRIER KKE
zCARRIER KKEE
zCARRIER KKI
zCARRIER KKA
zCARRIER KK
zCARRIER NU
zCARRIER NO
zCARRIER NE
zCARRIER NEE
zCARRIER NI
zCARRIER NA
zCARRIER MU
zCARRIER MO
zCARRIER ME
zCARRIER MEE
zCARRIER MI
zCARRIER MA
zCARRIER YU
zCARRIER YO
zCARRIER YE
zCARRIER YEE
zCARRIER YI
zCARRIER YA
zCARRIER JU
zSAYISI JU
zCARRIER JO
zCARRIER JE
zCARRIER JEE
zCARRIER JI
zSAYISI JI
zCARRIER JA
zCARRIER JJU
zCARRIER JJO
zCARRIER JJE
zCARRIER JJEE
zCARRIER JJI
zCARRIER JJA
zCARRIER LU
zCARRIER LO
zCARRIER LE
zCARRIER LEE
zCARRIER LI
zCARRIER LA
zCARRIER DLU
zCARRIER DLO
zCARRIER DLE
zCARRIER DLEE
zCARRIER DLI
zCARRIER DLA
zCARRIER LHU
zCARRIER LHO
zCARRIER LHE
zCARRIER LHEE
zCARRIER LHI
zCARRIER LHA
zCARRIER TLHU
zCARRIER TLHO
zCARRIER TLHE
zCARRIER TLHEE
zCARRIER TLHI
zCARRIER TLHA
zCARRIER TLU
zCARRIER TLO
zCARRIER TLE
zCARRIER TLEE
zCARRIER TLI
zCARRIER TLA
zCARRIER ZU
zCARRIER ZO
zCARRIER ZE
zCARRIER ZEE
zCARRIER ZI
zCARRIER ZA
zCARRIER Z
zCARRIER INITIAL Z
zCARRIER DZU
zCARRIER DZO
zCARRIER DZE
zCARRIER DZEE
zCARRIER DZI
zCARRIER DZA
zCARRIER SU
zCARRIER SO
zCARRIER SE
zCARRIER SEE
zCARRIER SI
zCARRIER SA
zCARRIER SHU
zCARRIER SHO
zCARRIER SHE
zCARRIER SHEE
zCARRIER SHI
zCARRIER SHA
zCARRIER SH
zCARRIER TSU
zCARRIER TSO
zCARRIER TSE
zCARRIER TSEE
zCARRIER TSI
zCARRIER TSA
zCARRIER CHU
zCARRIER CHO
zCARRIER CHE
zCARRIER CHEE
zCARRIER CHI
zCARRIER CHA
zCARRIER TTSU
zCARRIER TTSO
zCARRIER TTSE
zCARRIER TTSEE
zCARRIER TTSI
zCARRIER TTSA
zCHI SIGN
zFULL STOP
zQAI
zNGAI
zNNGI
zNNGII
zNNGO
zNNGOO
zNNGA
zNNGAA
zWOODS-CREE THWEE
zWOODS-CREE THWI
zWOODS-CREE THWII
zWOODS-CREE THWO
zWOODS-CREE THWOO
zWOODS-CREE THWA
zWOODS-CREE THWAA
zWOODS-CREE FINAL TH
zBLACKFOOT W
gOGHAM SPACE MARK
mLETTER BEITH
tLUIS
tFEARN
tSAIL
tNION
tUATH
tDAIR
tTINNE
tCOLL
uEIRT
tMUIN
tGORT
tNGEADAL
tSTRAIF
tRUIS
tAILM
tONN
tUR
tEADHADH
tIODHADH
tEABHADH
tOR
tUILLEANN
tIFIN
tEAMHANCHOLL
tPEITH
mFEATHER MARK
mREVERSED FEATHER MARK
4gRUNIC LETTER FEHU FEOH FE F
tV
tURUZ UR U
tYR
u
tW
tTHURISAZ THURS THORN
tETH
tANSUZ A
tOS O
tAC A
uESC
tLONG-BRANCH-OSS O
tSHORT-TWIG-OSS O
tO
uE
uN
tRAIDO RAD REID R
tKAUNA
tCEN
tKAUN K
tG
tENG
tGEBO GYFU G
uAR
tWUNJO WYNN W
tHAGLAZ H
vEGL H
tLONG-BRANCH-HAGALL H
tSHORT-TWIG-HAGALL H
tNAUDIZ NYD NAUD N
tSHORT-TWIG-NAUD N
tDOTTED-N
tISAZ IS ISS I
tE
tJERAN J
tGER
tLONG-BRANCH-AR AE
tSHORT-TWIG-AR A
tIWAZ EOH
tPERTHO PEORTH P
tALGIZ EOLHX
tSOWILO S
uIGEL LONG-BRANCH-SOL S
uHORT-TWIG-SOL S
tC
tZ
tTIWAZ TIR TYR T
tSHORT-TWIG-TYR T
tD
tBERKANAN BEORC BJARKAN B
tSHORT-TWIG-BJARKAN B
tDOTTED-P
tOPEN-P
tEHWAZ EH E
tMANNAZ MAN M
tLONG-BRANCH-MADR M
tSHORT-TWIG-MADR M
tLAUKAZ LAGU LOGR L
tDOTTED-L
tINGWAZ
w
tDAGAZ DAEG D
tOTHALAN ETHEL O
tEAR
tIOR
tCWEORTH
uALC
uEALC
tSTAN
tLONG-BRANCH-YR
tSHORT-TWIG-YR
tICELANDIC-YR
tQ
tX
mSINGLE PUNCTUATION
mMULTIPLE PUNCTUATION
mCROSS PUNCTUATION
mARLAUG SYMBOL
mTVIMADUR SYMBOL
mBELGTHOR SYMBOL
mLETTER K
tSH
tOO
tFRANKS CASKET OS
z CASKET IS
z CASKET EH
z CASKET AC
z CASKET AESC
8gTAGALOG LETTER A
vI
vU
vKA
vGA
vNGA
vTA
vDA
vNA
vPA
vBA
vMA
vYA
vRA
vLA
vWA
vSA
vHA
oVOWEL SIGN I
zU
oSIGN VIRAMA
tPAMUDPOD
aoLETTER ARCHAIC RA
gHANUNOO LETTER A
vI
vU
vKA
vGA
vNGA
vTA
vDA
vNA
vPA
vBA
vMA
vYA
vRA
vLA
vWA
vSA
vHA
oVOWEL SIGN I
zU
oSIGN PAMUDPOD
gPHILIPPINE SINGLE PUNCTUATION
rDOUBLE PUNCTUATION
agBUHID LETTER A
tI
tU
tKA
tGA
tNGA
tTA
tDA
tNA
tPA
tBA
tMA
tYA
tRA
tLA
tWA
tSA
tHA
mVOWEL SIGN I
xU
dgTAGBANWA LETTER A
wI
wU
wKA
wGA
wNGA
wTA
wDA
wNA
wPA
wBA
wMA
wYA
2wLA
wWA
wSA
2pVOWEL SIGN I
z U
dgKHMER LETTER KA
uHA
uO
uHO
tNGO
tCA
uHA
uO
uHO
tNYO
tDA
tTTHA
tDO
tTTHO
tNNO
tTA
uHA
uO
uHO
tNO
tBA
tPHA
uO
uHO
tMO
tYO
tRO
tLO
tVO
tSHA
uSO
uA
tHA
tLA
tQA
mINDEPENDENT VOWEL QAQ
zOWEL QAA
zOWEL QI
zOWEL QII
zOWEL QU
zOWEL QUK
zOWEL QUU
zOWEL QUUV
zOWEL RY
zOWEL RYY
zOWEL LY
zOWEL LYY
zOWEL QE
zOWEL QAI
zOWEL QOO TYPE ONE
zOWEL QOO TYPE TWO
zOWEL QAU
mVOWEL INHERENT AQ
zT AA
sSIGN AA
xI
yI
xY
yY
xU
yU
yA
xOE
xYA
xIE
xE
xAE
yI
xOO
xAU
mSIGN NIKAHIT
rREAHMUK
rYUUKALEAPINTU
rMUUSIKATOAN
rTRIISAP
rBANTOC
rROBAT
rTOANDAKHIAT
rKAKABAT
rAHSDA
rSAMYOK SANNYA
rVIRIAM
rCOENG
rBATHAMASAT
rKHAN
rBARIYOOSAN
rCAMNUC PII KUUH
rLEK TOO
rBEYYAL
rPHNAEK MUAN
rKOOMUUT
mCURRENCY SYMBOL RIEL
mSIGN AVAKRAHASANYA
sTTHACAN
3mDIGIT ZERO
sONE
sTWO
tHREE
sFOUR
tIVE
sSIX
tEVEN
sEIGHT
sNINE
7mSYMBOL LEK ATTAK SON
zTAK MUOY
zTAK PII
zTAK BEI
zTAK BUON
zTAK PRAM
zTAK PRAM-MUOY
zTAK PRAM-PII
zTAK PRAM-BEI
zTAK PRAM-BUON
7gMONGOLIAN BIRGA
qELLIPSIS
qCOMMA
qFULL STOP
qCOLON
qFOUR DOTS
qTODO SOFT HYPHEN
qSIBE SYLLABLE BOUNDARY MARKER
qMANCHU COMMA
xFULL STOP
qNIRUGU
gFVS1
0gMONGOLIAN FREE VARIATION SELECTOR ONE
gFVS2
0gMONGOLIAN FREE VARIATION SELECTOR TWO
gFVS3
0gMONGOLIAN FREE VARIATION SELECTOR THREE
qVOWEL SEPARATOR
0hVS
gFVS4
0gMONGOLIAN FREE VARIATION SELECTOR FOUR
qDIGIT ZERO
wONE
wTWO
xHREE
wFOUR
xIVE
wSIX
xEVEN
wEIGHT
wNINE
7qLETTER A
xE
xI
xO
xU
xOE
xUE
xEE
xNA
xANG
xBA
xPA
xQA
xGA
xMA
xLA
xSA
yHA
xTA
xDA
xCHA
xJA
xYA
xRA
xWA
xFA
xKA
yHA
xTSA
xZA
xHAA
xZRA
xLHA
xZHI
xCHI
xTODO LONG VOWEL SIGN
zDO E
zDO I
zDO O
zDO U
zDO OE
zDO UE
zDO ANG
zDO BA
zDO PA
zDO QA
zDO GA
zDO MA
zDO TA
zDO DA
zDO CHA
zDO JA
zDO TSA
zDO YA
zDO WA
zDO KA
zDO GAA
zDO HAA
zDO JIA
zDO NIA
zDO DZA
xSIBE E
zBE I
zBE IY
zBE UE
zBE U
zBE ANG
zBE KA
zBE GA
zBE HA
zBE PA
zBE SHA
zBE TA
zBE DA
zBE JA
zBE FA
zBE GAA
zBE HAA
zBE TSA
zBE ZA
zBE RAA
zBE CHA
zBE ZHA
xMANCHU I
zNCHU KA
zNCHU RA
zNCHU FA
zNCHU ZHA
xCHA WITH TWO DOTS
8xALI GALI ANUSVARA ONE
zI GALI VISARGA ONE
zI GALI DAMARU
zI GALI UBADAMA
zI GALI INVERTED UBADAMA
zI GALI BALUDA
zI GALI THREE BALUDA
zI GALI A
zI GALI I
zI GALI KA
zI GALI NGA
zI GALI CA
zI GALI TTA
zI GALI TTHA
zI GALI DDA
zI GALI NNA
zI GALI TA
zI GALI DA
zI GALI PA
zI GALI PHA
zI GALI SSA
zI GALI ZHA
zI GALI ZA
zI GALI AH
xTODO ALI GALI TA
zDO ALI GALI ZHA
xMANCHU ALI GALI GHA
zNCHU ALI GALI NGA
zNCHU ALI GALI CA
zNCHU ALI GALI JHA
zNCHU ALI GALI TTA
zNCHU ALI GALI DDHA
zNCHU ALI GALI TA
zNCHU ALI GALI DHA
zNCHU ALI GALI SSA
zNCHU ALI GALI CYA
zNCHU ALI GALI ZHA
zNCHU ALI GALI ZA
xALI GALI HALF U
zI GALI HALF YA
xMANCHU ALI GALI BHA
xALI GALI DAGALGA
xMANCHU ALI GALI LHA
6gCANADIAN SYLLABICS OY
zAY
zAAY
zWAY
zPOY
zPAY
zPWOY
zTAY
zKAY
zKWAY
zMAY
zNOY
zNAY
zLAY
zSOY
zSAY
zSHOY
zSHAY
zSHWOY
zYOY
zYAY
zRAY
zNWI
zOJIBWAY NWI
zNWII
zOJIBWAY NWII
zNWO
zOJIBWAY NWO
zNWOO
zOJIBWAY NWOO
zRWEE
zRWI
zRWII
zRWO
zRWOO
zRWA
zOJIBWAY P
zOJIBWAY T
zOJIBWAY K
zOJIBWAY C
zOJIBWAY M
zOJIBWAY N
zOJIBWAY S
zOJIBWAY SH
zEASTERN W
zWESTERN W
zFINAL SMALL RING
zFINAL RAISED DOT
zR-CREE RWE
zWEST-CREE LOO
zWEST-CREE LAA
zTHWE
zTHWA
zTTHWE
zTTHOO
zTTHAA
zTLHWE
zTLHOO
zSAYISI SHWE
zSAYISI SHOO
zSAYISI HOO
zCARRIER GWU
zCARRIER DENE GEE
zCARRIER GAA
zCARRIER GWA
zSAYISI JUU
zCARRIER JWA
zBEAVER DENE L
zBEAVER DENE R
zCARRIER DENTAL S
bgLIMBU VOWEL-CARRIER LETTER
mLETTER KA
uHA
tGA
uHA
tNGA
tCA
uHA
tJA
uHA
tYAN
tTA
uHA
tDA
uHA
tNA
tPA
uHA
tBA
uHA
tMA
tYA
tRA
tLA
tWA
tSHA
uSA
uA
tHA
tGYAN
tTRA
2mVOWEL SIGN A
xI
xU
xEE
xAI
xOO
xAU
xE
xO
mSUBJOINED LETTER YA
zTER RA
zTER WA
5nMALL LETTER KA
zNGA
zANUSVARA
zTA
zNA
zPA
zMA
zRA
zLA
nIGN MUKPHRENG
rKEMPHRENG
rSA-I
5rLOO
4mEXCLAMATION MARK
mQUESTION MARK
mDIGIT ZERO
sONE
sTWO
tHREE
sFOUR
tIVE
sSIX
tEVEN
sEIGHT
sNINE
gTAI LE LETTER KA
uXA
uNGA
uTSA
uSA
uYA
uTA
vHA
uLA
uPA
vHA
uMA
uFA
uVA
uHA
uQA
uKHA
uTSHA
uNA
uA
uI
uEE
vH
uU
uOO
v
uUE
uE
uAUE
vI
3uTONE-2
z3
z4
z5
z6
cgNEW TAI LUE LETTER HIGH QA
zLOW QA
zHIGH KA
zHIGH XA
zHIGH NGA
zLOW KA
zLOW XA
zLOW NGA
zHIGH TSA
zHIGH SA
zHIGH YA
zLOW TSA
zLOW SA
zLOW YA
zHIGH TA
zHIGH THA
zHIGH NA
zLOW TA
zLOW THA
zLOW NA
zHIGH PA
zHIGH PHA
zHIGH MA
zLOW PA
zLOW PHA
zLOW MA
zHIGH FA
zHIGH VA
zHIGH LA
zLOW FA
zLOW VA
zLOW LA
zHIGH HA
zHIGH DA
zHIGH BA
zLOW HA
zLOW DA
zLOW BA
zHIGH KVA
zHIGH XVA
zLOW KVA
zLOW XVA
zHIGH SUA
zLOW SUA
5sVOWEL SIGN VOWEL SHORTENER
zIGN AA
zIGN II
zIGN U
zIGN UU
zIGN E
zIGN AE
zIGN O
zIGN OA
zIGN UE
zIGN AY
zIGN AAY
zIGN UY
zIGN OY
zIGN OAY
zIGN UEY
zIGN IY
sLETTER FINAL V
zFINAL NG
zFINAL N
zFINAL M
zFINAL K
zFINAL D
zFINAL B
sTONE MARK-1
zRK-2
7sDIGIT ZERO
yONE
yTWO
zHREE
yFOUR
zIVE
ySIX
zEVEN
yEIGHT
yNINE
sTHAM DIGIT ONE
4sSIGN LAE
zEV
gKHMER SYMBOL PATHAMASAT
tMUOY KOET
tPII KOET
tBEI KOET
uUON KOET
tPRAM KOET
x-MUOY KOET
yPII KOET
yBEI KOET
zUON KOET
tDAP KOET
w-MUOY KOET
xPII KOET
xBEI KOET
yUON KOET
xPRAM KOET
tTUTEYASAT
tMUOY ROC
tPII ROC
tBEI ROC
uUON ROC
tPRAM ROC
x-MUOY ROC
yPII ROC
yBEI ROC
zUON ROC
tDAP ROC
w-MUOY ROC
xPII ROC
xBEI ROC
yUON ROC
xPRAM ROC
gBUGINESE LETTER KA
wGA
wNGA
yKA
wPA
wBA
wMA
xPA
wTA
wDA
wNA
xRA
wCA
wJA
wNYA
yCA
wYA
wRA
wLA
wVA
wSA
wA
wHA
pVOWEL SIGN I
z U
z E
z O
z AE
3pPALLAWA
pEND OF SECTION
gTAI THAM LETTER HIGH KA
zH KHA
zH KXA
wLOW KA
z KXA
z KHA
wNGA
wHIGH CA
zH CHA
wLOW CA
z SA
z CHA
wNYA
wRATA
wHIGH RATHA
wDA
wLOW RATHA
wRANA
wHIGH TA
zH THA
wLOW TA
z THA
wNA
wBA
wHIGH PA
zH PHA
zH FA
wLOW PA
z FA
z PHA
wMA
wLOW YA
wHIGH YA
wRA
xUE
wLA
xUE
wWA
wHIGH SHA
zH SSA
zH SA
zH HA
wLLA
wA
wLOW HA
wI
xI
wU
xU
wEE
wOO
wLAE
wGREAT SA
pCONSONANT SIGN MEDIAL RA
zSIGN MEDIAL LA
zSIGN LA TANG LAI
pSIGN MAI KANG LAI
pCONSONANT SIGN FINAL NGA
zSIGN LOW PA
zSIGN HIGH RATHA OR LOW PA
zSIGN MA
zSIGN BA
zSIGN SA
2pSIGN SAKOT
pVOWEL SIGN A
z MAI SAT
z AA
z TALL AA
z I
z II
z UE
z UUE
z U
z UU
z O
z OA BELOW
z OY
z E
z AE
z OO
z AI
z THAM AI
z OA ABOVE
pSIGN MAI KANG
uTONE-1
z2
uKHUEN TONE-3
z TONE-4
z TONE-5
uRA HAAM
uMAI SAM
uKHUEN-LUE KARAN
3pCOMBINING CRYPTOGRAMMIC DOT
pHORA DIGIT ZERO
z ONE
z TWO
z THREE
z FOUR
z FIVE
z SIX
z SEVEN
z EIGHT
z NINE
7pTHAM DIGIT ZERO
z ONE
z TWO
z THREE
z FOUR
z FIVE
z SIX
z SEVEN
z EIGHT
z NINE
7pSIGN WIANG
zWAAK
uSAWAN
uKEOW
uHOY
uDOKMAI
uREVERSED ROTATED RANA
uMAI YAMOK
uKAAN
yKUU
uSATKAAN
zANKUU
uHANG
uCAANG
3gCOMBINING DOUBLED CIRCUMFLEX ACCENT
rIAERESIS-RING
qINFINITY
qDOWNWARDS ARROW
qTRIPLE DOT
qX-X BELOW
qWIGGLY LINE BELOW
qOPEN MARK BELOW
qDOUBLE OPEN MARK BELOW
qLIGHT CENTRALIZATION STROKE BELOW
qSTRONG CENTRALIZATION STROKE BELOW
qPARENTHESES ABOVE
qDOUBLE PARENTHESES ABOVE
qPARENTHESES BELOW
zES OVERLAY
qLATIN SMALL LETTER W BELOW
zLL LETTER TURNED W BELOW
rEFT PARENTHESIS ABOVE LEFT
qRIGHT PARENTHESIS ABOVE RIGHT
qLEFT PARENTHESIS BELOW LEFT
qRIGHT PARENTHESIS BELOW RIGHT
qSQUARE BRACKETS ABOVE
qNUMBER SIGN ABOVE
qINVERTED DOUBLE ARCH ABOVE
qPLUS SIGN ABOVE
qDOUBLE PLUS SIGN ABOVE
zUS SIGN BELOW
qTRIPLE ACUTE ACCENT
qLATIN SMALL LETTER INSULAR G
zLL LETTER INSULAR R
zLL LETTER INSULAR T
32gBALINESE SIGN ULU RICEM
yCANDRA
uCECEK
uSURANG
uBISAH
pLETTER AKARA
zRA TEDUNG
wIKARA
zRA TEDUNG
wUKARA
zRA TEDUNG
wRA REPA
zREPA TEDUNG
wLA LENGA
zLENGA TEDUNG
wEKARA
wAIKARA
wOKARA
zRA TEDUNG
wKA
y MAHAPRANA
wGA
y GORA
wNGA
wCA
y LACA
wJA
y JERA
wNYA
wTA LATIK
zMURDA MAHAPRANA
wDA MURDA ALPAPRANA
zMURDA MAHAPRANA
wNA RAMBAT
wTA
y TAWA
wDA
y MADU
wNA
wPA
y KAPAL
wBA
y KEMBANG
wMA
wYA
wRA
wLA
wWA
wSA SAGA
zSAPA
y
wHA
pSIGN REREKAN
pVOWEL SIGN TEDUNG
z ULU
z ULU SARI
z SUKU
z SUKU ILUT
z RA REPA
z RA REPA TEDUNG
z LA LENGA
z LA LENGA TEDUNG
z TALING
z TALING REPA
z TALING TEDUNG
z TALING REPA TEDUNG
z PEPET
z PEPET TEDUNG
pADEG ADEG
pLETTER KAF SASAK
xHOT SASAK
wTZIR SASAK
wEF SASAK
wVE SASAK
wZAL SASAK
wASYURA SASAK
xRCHAIC JNYA
4pDIGIT ZERO
vONE
vTWO
wHREE
vFOUR
wIVE
vSIX
wEVEN
vEIGHT
vNINE
pPANTI
rMADA
pWINDU
pCARIK PAMUNGKAH
vSIKI
vPAREREN
pPAMENENG
pMUSICAL SYMBOL DONG
zMBOL DENG
zMBOL DUNG
zMBOL DANG
zMBOL DANG SURANG
zMBOL DING
zMBOL DAENG
zMBOL DEUNG
zMBOL DAING
zMBOL DANG GEDE
zMBOL COMBINING TEGEH
zMBOL COMBINING ENDEP
zMBOL COMBINING KEMPUL
zMBOL COMBINING KEMPLI
zMBOL COMBINING JEGOGAN
zMBOL COMBINING KEMPUL WITH JEGOGAN
zMBOL COMBINING KEMPLI WITH JEGOGAN
zMBOL COMBINING BENDE
zMBOL COMBINING GONG
zMBOL RIGHT-HAND OPEN DUG
zMBOL RIGHT-HAND OPEN DAG
zMBOL RIGHT-HAND CLOSED TUK
zMBOL RIGHT-HAND CLOSED TAK
zMBOL LEFT-HAND OPEN PANG
zMBOL LEFT-HAND OPEN PUNG
zMBOL LEFT-HAND CLOSED PLAK
zMBOL LEFT-HAND CLOSED PLUK
zMBOL LEFT-HAND OPEN PING
pPANTI LANTANG
rMADA LANTANG
2gSUNDANESE SIGN PANYECEK
yGLAYAR
zWISAD
qLETTER A
xI
xU
xAE
xO
xE
yU
xKA
xQA
xGA
xNGA
xCA
xJA
xZA
xNYA
xTA
xDA
xNA
xPA
xFA
xVA
xBA
xMA
xYA
xRA
xLA
xWA
xSA
xXA
xHA
qCONSONANT SIGN PAMINGKAL
z SIGN PANYAKRA
z SIGN PANYIKU
qVOWEL SIGN PANGHULU
zN PANYUKU
zN PANAELAENG
zN PANOLONG
zN PAMEPET
zN PANEULEUNG
qSIGN PAMAAEH
vVIRAMA
qCONSONANT SIGN PASANGAN MA
z SIGN PASANGAN WA
qLETTER KHA
xSYA
qDIGIT ZERO
wONE
wTWO
xHREE
wFOUR
xIVE
wSIX
xEVEN
wEIGHT
wNINE
qAVAGRAHA
qLETTER REU
xLEU
xARCHAIC I
0xBHA
xFINAL K
zNAL M
gBATAK LETTER A
tSIMALUNGUN A
tHA
tSIMALUNGUN HA
tMANDAILING HA
tBA
tKARO BA
tPA
tSIMALUNGUN PA
tNA
tMANDAILING NA
tWA
tSIMALUNGUN WA
tPAKPAK WA
tGA
tSIMALUNGUN GA
tJA
tDA
tRA
tSIMALUNGUN RA
tMA
tSIMALUNGUN MA
uOUTHERN TA
tNORTHERN TA
tSA
uIMALUNGUN SA
tMANDAILING SA
tYA
tSIMALUNGUN YA
tNGA
tLA
tSIMALUNGUN LA
tNYA
tCA
tNDA
tMBA
tI
tU
mSIGN TOMPI
mVOWEL SIGN E
xPAKPAK E
xEE
xI
xKARO I
xO
xKARO O
xU
y FOR SIMALUNGUN SA
mCONSONANT SIGN NG
zN H
mPANGOLAT
pONGONAN
9mSYMBOL BINDU NA METEK
zPINARBORAS
zJUDUL
zPANGOLAT
gLEPCHA LETTER KA
vLA
vHA
uGA
vLA
uNGA
uCA
vHA
uJA
uNYA
uTA
vHA
uDA
uNA
uPA
vLA
vHA
uFA
vLA
uBA
vLA
uMA
vLA
uTSA
wHA
uDZA
uYA
uRA
uLA
uHA
vLA
uVA
uSA
vHA
uWA
uA
nSUBJOINED LETTER YA
zTTER RA
nVOWEL SIGN AA
yI
yO
zO
yU
zU
yE
nCONSONANT SIGN K
zGN M
zGN L
zGN N
zGN P
zGN R
zGN T
zGN NYIN-DO
zGN KANG
nSIGN RAN
sNUKTA
4nPUNCTUATION TA-ROL
zNYET THYOOM TA-ROL
zCER-WA
zTSHOOK CER-WA
zTSHOOK
nDIGIT ZERO
tONE
tTWO
uHREE
tFOUR
uIVE
tSIX
uEVEN
tEIGHT
tNINE
4nLETTER TTA
wHA
uDDA
gOL CHIKI DIGIT ZERO
vONE
vTWO
wHREE
vFOUR
wIVE
vSIX
wEVEN
vEIGHT
vNINE
pLETTER LA
wAT
xG
xNG
xL
wLAA
wAAK
yJ
yM
yW
wLI
wIS
xH
xNY
xR
wLU
wUC
xD
xNN
xY
wLE
wEP
xDD
xN
xRR
wLO
wOTT
xB
xV
xH
pMU TTUDDAG
pGAAHLAA TTUDDAAG
pMU-GAAHLAA TTUDDAAG
pRELAA
pPHAARKAA
pAHAD
pPUNCTUATION MUCAAD
zN DOUBLE MUCAAD
gCYRILLIC SMALL LETTER ROUNDED VE
zER LONG-LEGGED DE
zER NARROW O
zER WIDE ES
zER TALL TE
zER THREE-LEGGED TE
zER TALL HARD SIGN
zER TALL YAT
zER UNBLENDED UK
8gGEORGIAN MTAVRULI CAPITAL LETTER AN
zAPITAL LETTER BAN
zAPITAL LETTER GAN
zAPITAL LETTER DON
zAPITAL LETTER EN
zAPITAL LETTER VIN
zAPITAL LETTER ZEN
zAPITAL LETTER TAN
zAPITAL LETTER IN
zAPITAL LETTER KAN
zAPITAL LETTER LAS
zAPITAL LETTER MAN
zAPITAL LETTER NAR
zAPITAL LETTER ON
zAPITAL LETTER PAR
zAPITAL LETTER ZHAR
zAPITAL LETTER RAE
zAPITAL LETTER SAN
zAPITAL LETTER TAR
zAPITAL LETTER UN
zAPITAL LETTER PHAR
zAPITAL LETTER KHAR
zAPITAL LETTER GHAN
zAPITAL LETTER QAR
zAPITAL LETTER SHIN
zAPITAL LETTER CHIN
zAPITAL LETTER CAN
zAPITAL LETTER JIL
zAPITAL LETTER CIL
zAPITAL LETTER CHAR
zAPITAL LETTER XAN
zAPITAL LETTER JHAN
zAPITAL LETTER HAE
zAPITAL LETTER HE
zAPITAL LETTER HIE
zAPITAL LETTER WE
zAPITAL LETTER HAR
zAPITAL LETTER HOE
zAPITAL LETTER FI
zAPITAL LETTER YN
zAPITAL LETTER ELIFI
zAPITAL LETTER TURNED GAN
zAPITAL LETTER AIN
3zAPITAL LETTER AEN
zAPITAL LETTER HARD SIGN
zAPITAL LETTER LABIAL SIGN
gSUNDANESE PUNCTUATION BINDU SURYA
zON BINDU PANGLONG
zON BINDU PURNAMA
zON BINDU CAKRA
zON BINDU LEU SATANGA
zON BINDU KA SATANGA
zON BINDU DA SATANGA
zON BINDU BA SATANGA
9gVEDIC TONE KARSHANA
rSHARA
rPRENKHA
mSIGN NIHSHVASA
rYAJURVEDIC MIDLINE SVARITA
mTONE YAJURVEDIC AGGRAVATED INDEPENDENT SVARITA
zIC INDEPENDENT SVARITA
zIC KATHAKA INDEPENDENT SVARITA
rCANDRA BELOW
rYAJURVEDIC KATHAKA INDEPENDENT SVARITA SCHROEDER
rDOUBLE SVARITA
rTRIPLE SVARITA
rKATHAKA ANUDATTA
rDOT BELOW
rTWO DOTS BELOW
sHREE DOTS BELOW
rRIGVEDIC KASHMIRI INDEPENDENT SVARITA
rATHARVAVEDIC INDEPENDENT SVARITA
mSIGN VISARGA SVARITA
zUDATTA
rREVERSED VISARGA UDATTA
rVISARGA ANUDATTA
rREVERSED VISARGA ANUDATTA
rVISARGA UDATTA WITH TAIL
zANUDATTA WITH TAIL
rANUSVARA ANTARGOMUKHA
z BAHIRGOMUKHA
z VAMAGOMUKHA
z VAMAGOMUKHA WITH TAIL
rTIRYAK
rHEXIFORM LONG ANUSVARA
rLONG ANUSVARA
rRTHANG LONG ANUSVARA
rANUSVARA UBHAYATO MUKHA
sRDHAVISARGA
rROTATED ARDHAVISARGA
mTONE CANDRA ABOVE
mSIGN JIHVAMULIYA
rUPADHMANIYA
rATIKRAMA
mTONE RING ABOVE
rDOUBLE RING ABOVE
mSIGN DOUBLE ANUSVARA ANTARGOMUKHA
6gLATIN LETTER SMALL CAPITAL A
zCAPITAL AE
mSMALL LETTER TURNED AE
mLETTER SMALL CAPITAL BARRED B
zCAPITAL C
zCAPITAL D
zCAPITAL ETH
zCAPITAL E
mSMALL LETTER TURNED OPEN E
zTURNED I
mLETTER SMALL CAPITAL J
zCAPITAL K
zCAPITAL L WITH STROKE
zCAPITAL M
zCAPITAL REVERSED N
zCAPITAL O
zCAPITAL OPEN O
mSMALL LETTER SIDEWAYS O
zSIDEWAYS OPEN O
zSIDEWAYS O WITH STROKE
zTURNED OE
mLETTER SMALL CAPITAL OU
mSMALL LETTER TOP HALF O
zBOTTOM HALF O
mLETTER SMALL CAPITAL P
zCAPITAL REVERSED R
zCAPITAL TURNED R
zCAPITAL T
zCAPITAL U
mSMALL LETTER SIDEWAYS U
zSIDEWAYS DIAERESIZED U
zSIDEWAYS TURNED M
mLETTER SMALL CAPITAL V
zCAPITAL W
zCAPITAL Z
zCAPITAL EZH
tVOICED LARYNGEAL SPIRANT
tAIN
gGREEK LETTER SMALL CAPITAL GAMMA
zCAPITAL LAMDA
zCAPITAL PI
zCAPITAL RHO
zCAPITAL PSI
gCYRILLIC LETTER SMALL CAPITAL EL
gMODIFIER LETTER CAPITAL A
zITAL AE
zITAL B
zITAL BARRED B
zITAL D
zITAL E
zITAL REVERSED E
zITAL G
zITAL H
zITAL I
zITAL J
zITAL K
zITAL L
zITAL M
zITAL N
zITAL REVERSED N
zITAL O
zITAL OU
zITAL P
zITAL R
zITAL T
zITAL U
zITAL W
wSMALL A
zLL TURNED A
zLL ALPHA
zLL TURNED AE
zLL B
zLL D
zLL E
zLL SCHWA
zLL OPEN E
zLL TURNED OPEN E
zLL G
zLL TURNED I
zLL K
zLL M
zLL ENG
zLL O
zLL OPEN O
zLL TOP HALF O
zLL BOTTOM HALF O
zLL P
zLL T
zLL U
zLL SIDEWAYS U
zLL TURNED M
zLL V
zLL AIN
zLL BETA
zLL GREEK GAMMA
zLL DELTA
zLL GREEK PHI
zLL CHI
gLATIN SUBSCRIPT SMALL LETTER I
zLL LETTER R
zLL LETTER U
zLL LETTER V
gGREEK SUBSCRIPT SMALL LETTER BETA
zLL LETTER GAMMA
zLL LETTER RHO
zLL LETTER PHI
zLL LETTER CHI
gLATIN SMALL LETTER UE
zB WITH MIDDLE TILDE
zD WITH MIDDLE TILDE
zF WITH MIDDLE TILDE
zM WITH MIDDLE TILDE
zN WITH MIDDLE TILDE
zP WITH MIDDLE TILDE
zR WITH MIDDLE TILDE
zR WITH FISHHOOK AND MIDDLE TILDE
zS WITH MIDDLE TILDE
zT WITH MIDDLE TILDE
zZ WITH MIDDLE TILDE
zTURNED G
gMODIFIER LETTER CYRILLIC EN
gLATIN SMALL LETTER INSULAR G
zTH WITH STRIKETHROUGH
sCAPITAL LETTER I WITH STROKE
sLETTER IOTA WITH STROKE
zP WITH STROKE
sCAPITAL LETTER U WITH STROKE
sLETTER UPSILON WITH STROKE
zB WITH PALATAL HOOK
zD WITH PALATAL HOOK
zF WITH PALATAL HOOK
zG WITH PALATAL HOOK
zK WITH PALATAL HOOK
zL WITH PALATAL HOOK
zM WITH PALATAL HOOK
zN WITH PALATAL HOOK
zP WITH PALATAL HOOK
zR WITH PALATAL HOOK
zS WITH PALATAL HOOK
zESH WITH PALATAL HOOK
zV WITH PALATAL HOOK
zX WITH PALATAL HOOK
zZ WITH PALATAL HOOK
zA WITH RETROFLEX HOOK
zALPHA WITH RETROFLEX HOOK
zD WITH HOOK AND TAIL
zE WITH RETROFLEX HOOK
zOPEN E WITH RETROFLEX HOOK
zREVERSED OPEN E WITH RETROFLEX HOOK
zSCHWA WITH RETROFLEX HOOK
zI WITH RETROFLEX HOOK
zOPEN O WITH RETROFLEX HOOK
zESH WITH RETROFLEX HOOK
zU WITH RETROFLEX HOOK
zEZH WITH RETROFLEX HOOK
gMODIFIER LETTER SMALL TURNED ALPHA
zLL C
zLL C WITH CURL
zLL ETH
zLL REVERSED OPEN E
zLL F
zLL DOTLESS J WITH STROKE
zLL SCRIPT G
zLL TURNED H
zLL I WITH STROKE
zLL IOTA
zLL CAPITAL I
zLL CAPITAL I WITH STROKE
zLL J WITH CROSSED-TAIL
zLL L WITH RETROFLEX HOOK
zLL L WITH PALATAL HOOK
zLL CAPITAL L
zLL M WITH HOOK
zLL TURNED M WITH LONG LEG
zLL N WITH LEFT HOOK
zLL N WITH RETROFLEX HOOK
zLL CAPITAL N
zLL BARRED O
zLL PHI
zLL S WITH HOOK
zLL ESH
zLL T WITH PALATAL HOOK
zLL U BAR
zLL UPSILON
zLL CAPITAL U
zLL V WITH HOOK
zLL TURNED V
zLL Z
zLL Z WITH RETROFLEX HOOK
zLL Z WITH CURL
zLL EZH
zLL THETA
gCOMBINING DOTTED GRAVE ACCENT
xACUTE ACCENT
qSNAKE BELOW
rUSPENSION MARK
qMACRON-ACUTE
qGRAVE-MACRON
qMACRON-GRAVE
qACUTE-MACRON
qGRAVE-ACUTE-GRAVE
qACUTE-GRAVE-ACUTE
qLATIN SMALL LETTER R BELOW
qBREVE-MACRON
qMACRON-BREVE
qDOUBLE CIRCUMFLEX ABOVE
qOGONEK ABOVE
qZIGZAG BELOW
qIS BELOW
qUR ABOVE
rS ABOVE
qLATIN SMALL LETTER FLATTENED OPEN A ABOVE
zLL LETTER AE
zLL LETTER AO
zLL LETTER AV
zLL LETTER C CEDILLA
zLL LETTER INSULAR D
zLL LETTER ETH
zLL LETTER G
wLETTER SMALL CAPITAL G
wSMALL LETTER K
zLL LETTER L
wLETTER SMALL CAPITAL L
zTER SMALL CAPITAL M
wSMALL LETTER N
wLETTER SMALL CAPITAL N
zTER SMALL CAPITAL R
wSMALL LETTER R ROTUNDA
zLL LETTER S
zLL LETTER LONG S
zLL LETTER Z
zLL LETTER ALPHA
zLL LETTER B
zLL LETTER BETA
zLL LETTER SCHWA
zLL LETTER F
zLL LETTER L WITH DOUBLE MIDDLE TILDE
zLL LETTER O WITH LIGHT CENTRALIZATION STROKE
zLL LETTER P
zLL LETTER ESH
zLL LETTER U WITH LIGHT CENTRALIZATION STROKE
zLL LETTER W
zLL LETTER A WITH DIAERESIS
zLL LETTER O WITH DIAERESIS
zLL LETTER U WITH DIAERESIS
qUP TACK ABOVE
qKAVYKA ABOVE RIGHT
zOVE LEFT
qDOT ABOVE LEFT
qWIDE INVERTED BRIDGE BELOW
qDOT BELOW LEFT
rELETION MARK
rOUBLE INVERTED BREVE BELOW
qALMOST EQUAL TO BELOW
qLEFT ARROWHEAD ABOVE
qRIGHT ARROWHEAD AND DOWN ARROWHEAD BELOW
gLATIN CAPITAL LETTER A WITH RING BELOW
mSMALL LETTER A WITH RING BELOW
mCAPITAL LETTER B WITH DOT ABOVE
mSMALL LETTER B WITH DOT ABOVE
mCAPITAL LETTER B WITH DOT BELOW
mSMALL LETTER B WITH DOT BELOW
mCAPITAL LETTER B WITH LINE BELOW
mSMALL LETTER B WITH LINE BELOW
mCAPITAL LETTER C WITH CEDILLA AND ACUTE
mSMALL LETTER C WITH CEDILLA AND ACUTE
mCAPITAL LETTER D WITH DOT ABOVE
mSMALL LETTER D WITH DOT ABOVE
mCAPITAL LETTER D WITH DOT BELOW
mSMALL LETTER D WITH DOT BELOW
mCAPITAL LETTER D WITH LINE BELOW
mSMALL LETTER D WITH LINE BELOW
mCAPITAL LETTER D WITH CEDILLA
mSMALL LETTER D WITH CEDILLA
mCAPITAL LETTER D WITH CIRCUMFLEX BELOW
mSMALL LETTER D WITH CIRCUMFLEX BELOW
mCAPITAL LETTER E WITH MACRON AND GRAVE
mSMALL LETTER E WITH MACRON AND GRAVE
mCAPITAL LETTER E WITH MACRON AND ACUTE
mSMALL LETTER E WITH MACRON AND ACUTE
mCAPITAL LETTER E WITH CIRCUMFLEX BELOW
mSMALL LETTER E WITH CIRCUMFLEX BELOW
mCAPITAL LETTER E WITH TILDE BELOW
mSMALL LETTER E WITH TILDE BELOW
mCAPITAL LETTER E WITH CEDILLA AND BREVE
mSMALL LETTER E WITH CEDILLA AND BREVE
mCAPITAL LETTER F WITH DOT ABOVE
mSMALL LETTER F WITH DOT ABOVE
mCAPITAL LETTER G WITH MACRON
mSMALL LETTER G WITH MACRON
mCAPITAL LETTER H WITH DOT ABOVE
mSMALL LETTER H WITH DOT ABOVE
mCAPITAL LETTER H WITH DOT BELOW
mSMALL LETTER H WITH DOT BELOW
mCAPITAL LETTER H WITH DIAERESIS
mSMALL LETTER H WITH DIAERESIS
mCAPITAL LETTER H WITH CEDILLA
mSMALL LETTER H WITH CEDILLA
mCAPITAL LETTER H WITH BREVE BELOW
mSMALL LETTER H WITH BREVE BELOW
mCAPITAL LETTER I WITH TILDE BELOW
mSMALL LETTER I WITH TILDE BELOW
mCAPITAL LETTER I WITH DIAERESIS AND ACUTE
mSMALL LETTER I WITH DIAERESIS AND ACUTE
mCAPITAL LETTER K WITH ACUTE
mSMALL LETTER K WITH ACUTE
mCAPITAL LETTER K WITH DOT BELOW
mSMALL LETTER K WITH DOT BELOW
mCAPITAL LETTER K WITH LINE BELOW
mSMALL LETTER K WITH LINE BELOW
mCAPITAL LETTER L WITH DOT BELOW
mSMALL LETTER L WITH DOT BELOW
mCAPITAL LETTER L WITH DOT BELOW AND MACRON
mSMALL LETTER L WITH DOT BELOW AND MACRON
mCAPITAL LETTER L WITH LINE BELOW
mSMALL LETTER L WITH LINE BELOW
mCAPITAL LETTER L WITH CIRCUMFLEX BELOW
mSMALL LETTER L WITH CIRCUMFLEX BELOW
mCAPITAL LETTER M WITH ACUTE
mSMALL LETTER M WITH ACUTE
mCAPITAL LETTER M WITH DOT ABOVE
mSMALL LETTER M WITH DOT ABOVE
mCAPITAL LETTER M WITH DOT BELOW
mSMALL LETTER M WITH DOT BELOW
mCAPITAL LETTER N WITH DOT ABOVE
mSMALL LETTER N WITH DOT ABOVE
mCAPITAL LETTER N WITH DOT BELOW
mSMALL LETTER N WITH DOT BELOW
mCAPITAL LETTER N WITH LINE BELOW
mSMALL LETTER N WITH LINE BELOW
mCAPITAL LETTER N WITH CIRCUMFLEX BELOW
mSMALL LETTER N WITH CIRCUMFLEX BELOW
mCAPITAL LETTER O WITH TILDE AND ACUTE
mSMALL LETTER O WITH TILDE AND ACUTE
mCAPITAL LETTER O WITH TILDE AND DIAERESIS
mSMALL LETTER O WITH TILDE AND DIAERESIS
mCAPITAL LETTER O WITH MACRON AND GRAVE
mSMALL LETTER O WITH MACRON AND GRAVE
mCAPITAL LETTER O WITH MACRON AND ACUTE
mSMALL LETTER O WITH MACRON AND ACUTE
mCAPITAL LETTER P WITH ACUTE
mSMALL LETTER P WITH ACUTE
mCAPITAL LETTER P WITH DOT ABOVE
mSMALL LETTER P WITH DOT ABOVE
mCAPITAL LETTER R WITH DOT ABOVE
mSMALL LETTER R WITH DOT ABOVE
mCAPITAL LETTER R WITH DOT BELOW
mSMALL LETTER R WITH DOT BELOW
mCAPITAL LETTER R WITH DOT BELOW AND MACRON
mSMALL LETTER R WITH DOT BELOW AND MACRON
mCAPITAL LETTER R WITH LINE BELOW
mSMALL LETTER R WITH LINE BELOW
mCAPITAL LETTER S WITH DOT ABOVE
mSMALL LETTER S WITH DOT ABOVE
mCAPITAL LETTER S WITH DOT BELOW
mSMALL LETTER S WITH DOT BELOW
mCAPITAL LETTER S WITH ACUTE AND DOT ABOVE
mSMALL LETTER S WITH ACUTE AND DOT ABOVE
mCAPITAL LETTER S WITH CARON AND DOT ABOVE
mSMALL LETTER S WITH CARON AND DOT ABOVE
mCAPITAL LETTER S WITH DOT BELOW AND DOT ABOVE
mSMALL LETTER S WITH DOT BELOW AND DOT ABOVE
mCAPITAL LETTER T WITH DOT ABOVE
mSMALL LETTER T WITH DOT ABOVE
mCAPITAL LETTER T WITH DOT BELOW
mSMALL LETTER T WITH DOT BELOW
mCAPITAL LETTER T WITH LINE BELOW
mSMALL LETTER T WITH LINE BELOW
mCAPITAL LETTER T WITH CIRCUMFLEX BELOW
mSMALL LETTER T WITH CIRCUMFLEX BELOW
mCAPITAL LETTER U WITH DIAERESIS BELOW
mSMALL LETTER U WITH DIAERESIS BELOW
mCAPITAL LETTER U WITH TILDE BELOW
mSMALL LETTER U WITH TILDE BELOW
mCAPITAL LETTER U WITH CIRCUMFLEX BELOW
mSMALL LETTER U WITH CIRCUMFLEX BELOW
mCAPITAL LETTER U WITH TILDE AND ACUTE
mSMALL LETTER U WITH TILDE AND ACUTE
mCAPITAL LETTER U WITH MACRON AND DIAERESIS
mSMALL LETTER U WITH MACRON AND DIAERESIS
mCAPITAL LETTER V WITH TILDE
mSMALL LETTER V WITH TILDE
mCAPITAL LETTER V WITH DOT BELOW
mSMALL LETTER V WITH DOT BELOW
mCAPITAL LETTER W WITH GRAVE
mSMALL LETTER W WITH GRAVE
mCAPITAL LETTER W WITH ACUTE
mSMALL LETTER W WITH ACUTE
mCAPITAL LETTER W WITH DIAERESIS
mSMALL LETTER W WITH DIAERESIS
mCAPITAL LETTER W WITH DOT ABOVE
mSMALL LETTER W WITH DOT ABOVE
mCAPITAL LETTER W WITH DOT BELOW
mSMALL LETTER W WITH DOT BELOW
mCAPITAL LETTER X WITH DOT ABOVE
mSMALL LETTER X WITH DOT ABOVE
mCAPITAL LETTER X WITH DIAERESIS
mSMALL LETTER X WITH DIAERESIS
mCAPITAL LETTER Y WITH DOT ABOVE
mSMALL LETTER Y WITH DOT ABOVE
mCAPITAL LETTER Z WITH CIRCUMFLEX
mSMALL LETTER Z WITH CIRCUMFLEX
mCAPITAL LETTER Z WITH DOT BELOW
mSMALL LETTER Z WITH DOT BELOW
mCAPITAL LETTER Z WITH LINE BELOW
mSMALL LETTER Z WITH LINE BELOW
zH WITH LINE BELOW
zT WITH DIAERESIS
zW WITH RING ABOVE
zY WITH RING ABOVE
zA WITH RIGHT HALF RING
zLONG S WITH DOT ABOVE
zLONG S WITH DIAGONAL STROKE
zLONG S WITH HIGH STROKE
mCAPITAL LETTER SHARP S
mSMALL LETTER DELTA
mCAPITAL LETTER A WITH DOT BELOW
mSMALL LETTER A WITH DOT BELOW
mCAPITAL LETTER A WITH HOOK ABOVE
mSMALL LETTER A WITH HOOK ABOVE
mCAPITAL LETTER A WITH CIRCUMFLEX AND ACUTE
mSMALL LETTER A WITH CIRCUMFLEX AND ACUTE
mCAPITAL LETTER A WITH CIRCUMFLEX AND GRAVE
mSMALL LETTER A WITH CIRCUMFLEX AND GRAVE
mCAPITAL LETTER A WITH CIRCUMFLEX AND HOOK ABOVE
mSMALL LETTER A WITH CIRCUMFLEX AND HOOK ABOVE
mCAPITAL LETTER A WITH CIRCUMFLEX AND TILDE
mSMALL LETTER A WITH CIRCUMFLEX AND TILDE
mCAPITAL LETTER A WITH CIRCUMFLEX AND DOT BELOW
mSMALL LETTER A WITH CIRCUMFLEX AND DOT BELOW
mCAPITAL LETTER A WITH BREVE AND ACUTE
mSMALL LETTER A WITH BREVE AND ACUTE
mCAPITAL LETTER A WITH BREVE AND GRAVE
mSMALL LETTER A WITH BREVE AND GRAVE
mCAPITAL LETTER A WITH BREVE AND HOOK ABOVE
mSMALL LETTER A WITH BREVE AND HOOK ABOVE
mCAPITAL LETTER A WITH BREVE AND TILDE
mSMALL LETTER A WITH BREVE AND TILDE
mCAPITAL LETTER A WITH BREVE AND DOT BELOW
mSMALL LETTER A WITH BREVE AND DOT BELOW
mCAPITAL LETTER E WITH DOT BELOW
mSMALL LETTER E WITH DOT BELOW
mCAPITAL LETTER E WITH HOOK ABOVE
mSMALL LETTER E WITH HOOK ABOVE
mCAPITAL LETTER E WITH TILDE
mSMALL LETTER E WITH TILDE
mCAPITAL LETTER E WITH CIRCUMFLEX AND ACUTE
mSMALL LETTER E WITH CIRCUMFLEX AND ACUTE
mCAPITAL LETTER E WITH CIRCUMFLEX AND GRAVE
mSMALL LETTER E WITH CIRCUMFLEX AND GRAVE
mCAPITAL LETTER E WITH CIRCUMFLEX AND HOOK ABOVE
mSMALL LETTER E WITH CIRCUMFLEX AND HOOK ABOVE
mCAPITAL LETTER E WITH CIRCUMFLEX AND TILDE
mSMALL LETTER E WITH CIRCUMFLEX AND TILDE
mCAPITAL LETTER E WITH CIRCUMFLEX AND DOT BELOW
mSMALL LETTER E WITH CIRCUMFLEX AND DOT BELOW
mCAPITAL LETTER I WITH HOOK ABOVE
mSMALL LETTER I WITH HOOK ABOVE
mCAPITAL LETTER I WITH DOT BELOW
mSMALL LETTER I WITH DOT BELOW
mCAPITAL LETTER O WITH DOT BELOW
mSMALL LETTER O WITH DOT BELOW
mCAPITAL LETTER O WITH HOOK ABOVE
mSMALL LETTER O WITH HOOK ABOVE
mCAPITAL LETTER O WITH CIRCUMFLEX AND ACUTE
mSMALL LETTER O WITH CIRCUMFLEX AND ACUTE
mCAPITAL LETTER O WITH CIRCUMFLEX AND GRAVE
mSMALL LETTER O WITH CIRCUMFLEX AND GRAVE
mCAPITAL LETTER O WITH CIRCUMFLEX AND HOOK ABOVE
mSMALL LETTER O WITH CIRCUMFLEX AND HOOK ABOVE
mCAPITAL LETTER O WITH CIRCUMFLEX AND TILDE
mSMALL LETTER O WITH CIRCUMFLEX AND TILDE
mCAPITAL LETTER O WITH CIRCUMFLEX AND DOT BELOW
mSMALL LETTER O WITH CIRCUMFLEX AND DOT BELOW
mCAPITAL LETTER O WITH HORN AND ACUTE
mSMALL LETTER O WITH HORN AND ACUTE
mCAPITAL LETTER O WITH HORN AND GRAVE
mSMALL LETTER O WITH HORN AND GRAVE
mCAPITAL LETTER O WITH HORN AND HOOK ABOVE
mSMALL LETTER O WITH HORN AND HOOK ABOVE
mCAPITAL LETTER O WITH HORN AND TILDE
mSMALL LETTER O WITH HORN AND TILDE
mCAPITAL LETTER O WITH HORN AND DOT BELOW
mSMALL LETTER O WITH HORN AND DOT BELOW
mCAPITAL LETTER U WITH DOT BELOW
mSMALL LETTER U WITH DOT BELOW
mCAPITAL LETTER U WITH HOOK ABOVE
mSMALL LETTER U WITH HOOK ABOVE
mCAPITAL LETTER U WITH HORN AND ACUTE
mSMALL LETTER U WITH HORN AND ACUTE
mCAPITAL LETTER U WITH HORN AND GRAVE
mSMALL LETTER U WITH HORN AND GRAVE
mCAPITAL LETTER U WITH HORN AND HOOK ABOVE
mSMALL LETTER U WITH HORN AND HOOK ABOVE
mCAPITAL LETTER U WITH HORN AND TILDE
mSMALL LETTER U WITH HORN AND TILDE
mCAPITAL LETTER U WITH HORN AND DOT BELOW
mSMALL LETTER U WITH HORN AND DOT BELOW
mCAPITAL LETTER Y WITH GRAVE
mSMALL LETTER Y WITH GRAVE
mCAPITAL LETTER Y WITH DOT BELOW
mSMALL LETTER Y WITH DOT BELOW
mCAPITAL LETTER Y WITH HOOK ABOVE
mSMALL LETTER Y WITH HOOK ABOVE
mCAPITAL LETTER Y WITH TILDE
mSMALL LETTER Y WITH TILDE
mCAPITAL LETTER MIDDLE-WELSH LL
mSMALL LETTER MIDDLE-WELSH LL
mCAPITAL LETTER MIDDLE-WELSH V
mSMALL LETTER MIDDLE-WELSH V
mCAPITAL LETTER Y WITH LOOP
mSMALL LETTER Y WITH LOOP
gGREEK SMALL LETTER ALPHA WITH PSILI
zALPHA WITH DASIA
zALPHA WITH PSILI AND VARIA
zALPHA WITH DASIA AND VARIA
zALPHA WITH PSILI AND OXIA
zALPHA WITH DASIA AND OXIA
zALPHA WITH PSILI AND PERISPOMENI
zALPHA WITH DASIA AND PERISPOMENI
mCAPITAL LETTER ALPHA WITH PSILI
zR ALPHA WITH DASIA
zR ALPHA WITH PSILI AND VARIA
zR ALPHA WITH DASIA AND VARIA
zR ALPHA WITH PSILI AND OXIA
zR ALPHA WITH DASIA AND OXIA
zR ALPHA WITH PSILI AND PERISPOMENI
zR ALPHA WITH DASIA AND PERISPOMENI
mSMALL LETTER EPSILON WITH PSILI
zEPSILON WITH DASIA
zEPSILON WITH PSILI AND VARIA
zEPSILON WITH DASIA AND VARIA
zEPSILON WITH PSILI AND OXIA
zEPSILON WITH DASIA AND OXIA
3mCAPITAL LETTER EPSILON WITH PSILI
zR EPSILON WITH DASIA
zR EPSILON WITH PSILI AND VARIA
zR EPSILON WITH DASIA AND VARIA
zR EPSILON WITH PSILI AND OXIA
zR EPSILON WITH DASIA AND OXIA
3mSMALL LETTER ETA WITH PSILI
zETA WITH DASIA
zETA WITH PSILI AND VARIA
zETA WITH DASIA AND VARIA
zETA WITH PSILI AND OXIA
zETA WITH DASIA AND OXIA
zETA WITH PSILI AND PERISPOMENI
zETA WITH DASIA AND PERISPOMENI
mCAPITAL LETTER ETA WITH PSILI
zR ETA WITH DASIA
zR ETA WITH PSILI AND VARIA
zR ETA WITH DASIA AND VARIA
zR ETA WITH PSILI AND OXIA
zR ETA WITH DASIA AND OXIA
zR ETA WITH PSILI AND PERISPOMENI
zR ETA WITH DASIA AND PERISPOMENI
mSMALL LETTER IOTA WITH PSILI
zIOTA WITH DASIA
zIOTA WITH PSILI AND VARIA
zIOTA WITH DASIA AND VARIA
zIOTA WITH PSILI AND OXIA
zIOTA WITH DASIA AND OXIA
zIOTA WITH PSILI AND PERISPOMENI
zIOTA WITH DASIA AND PERISPOMENI
mCAPITAL LETTER IOTA WITH PSILI
zR IOTA WITH DASIA
zR IOTA WITH PSILI AND VARIA
zR IOTA WITH DASIA AND VARIA
zR IOTA WITH PSILI AND OXIA
zR IOTA WITH DASIA AND OXIA
zR IOTA WITH PSILI AND PERISPOMENI
zR IOTA WITH DASIA AND PERISPOMENI
mSMALL LETTER OMICRON WITH PSILI
zOMICRON WITH DASIA
zOMICRON WITH PSILI AND VARIA
zOMICRON WITH DASIA AND VARIA
zOMICRON WITH PSILI AND OXIA
zOMICRON WITH DASIA AND OXIA
3mCAPITAL LETTER OMICRON WITH PSILI
zR OMICRON WITH DASIA
zR OMICRON WITH PSILI AND VARIA
zR OMICRON WITH DASIA AND VARIA
zR OMICRON WITH PSILI AND OXIA
zR OMICRON WITH DASIA AND OXIA
3mSMALL LETTER UPSILON WITH PSILI
zUPSILON WITH DASIA
zUPSILON WITH PSILI AND VARIA
zUPSILON WITH DASIA AND VARIA
zUPSILON WITH PSILI AND OXIA
zUPSILON WITH DASIA AND OXIA
zUPSILON WITH PSILI AND PERISPOMENI
zUPSILON WITH DASIA AND PERISPOMENI
2mCAPITAL LETTER UPSILON WITH DASIA
2zR UPSILON WITH DASIA AND VARIA
2zR UPSILON WITH DASIA AND OXIA
2zR UPSILON WITH DASIA AND PERISPOMENI
mSMALL LETTER OMEGA WITH PSILI
zOMEGA WITH DASIA
zOMEGA WITH PSILI AND VARIA
zOMEGA WITH DASIA AND VARIA
zOMEGA WITH PSILI AND OXIA
zOMEGA WITH DASIA AND OXIA
zOMEGA WITH PSILI AND PERISPOMENI
zOMEGA WITH DASIA AND PERISPOMENI
mCAPITAL LETTER OMEGA WITH PSILI
zR OMEGA WITH DASIA
zR OMEGA WITH PSILI AND VARIA
zR OMEGA WITH DASIA AND VARIA
zR OMEGA WITH PSILI AND OXIA
zR OMEGA WITH DASIA AND OXIA
zR OMEGA WITH PSILI AND PERISPOMENI
zR OMEGA WITH DASIA AND PERISPOMENI
mSMALL LETTER ALPHA WITH VARIA
zALPHA WITH OXIA
zEPSILON WITH VARIA
zEPSILON WITH OXIA
zETA WITH VARIA
zETA WITH OXIA
zIOTA WITH VARIA
zIOTA WITH OXIA
zOMICRON WITH VARIA
zOMICRON WITH OXIA
zUPSILON WITH VARIA
zUPSILON WITH OXIA
zOMEGA WITH VARIA
zOMEGA WITH OXIA
3zALPHA WITH PSILI AND YPOGEGRAMMENI
zALPHA WITH DASIA AND YPOGEGRAMMENI
zALPHA WITH PSILI AND VARIA AND YPOGEGRAMMENI
zALPHA WITH DASIA AND VARIA AND YPOGEGRAMMENI
zALPHA WITH PSILI AND OXIA AND YPOGEGRAMMENI
zALPHA WITH DASIA AND OXIA AND YPOGEGRAMMENI
zALPHA WITH PSILI AND PERISPOMENI AND YPOGEGRAMMENI
zALPHA WITH DASIA AND PERISPOMENI AND YPOGEGRAMMENI
mCAPITAL LETTER ALPHA WITH PSILI AND PROSGEGRAMMENI
zR ALPHA WITH DASIA AND PROSGEGRAMMENI
zR ALPHA WITH PSILI AND VARIA AND PROSGEGRAMMENI
zR ALPHA WITH DASIA AND VARIA AND PROSGEGRAMMENI
zR ALPHA WITH PSILI AND OXIA AND PROSGEGRAMMENI
zR ALPHA WITH DASIA AND OXIA AND PROSGEGRAMMENI
zR ALPHA WITH PSILI AND PERISPOMENI AND PROSGEGRAMMENI
zR ALPHA WITH DASIA AND PERISPOMENI AND PROSGEGRAMMENI
mSMALL LETTER ETA WITH PSILI AND YPOGEGRAMMENI
zETA WITH DASIA AND YPOGEGRAMMENI
zETA WITH PSILI AND VARIA AND YPOGEGRAMMENI
zETA WITH DASIA AND VARIA AND YPOGEGRAMMENI
zETA WITH PSILI AND OXIA AND YPOGEGRAMMENI
zETA WITH DASIA AND OXIA AND YPOGEGRAMMENI
zETA WITH PSILI AND PERISPOMENI AND YPOGEGRAMMENI
zETA WITH DASIA AND PERISPOMENI AND YPOGEGRAMMENI
mCAPITAL LETTER ETA WITH PSILI AND PROSGEGRAMMENI
zR ETA WITH DASIA AND PROSGEGRAMMENI
zR ETA WITH PSILI AND VARIA AND PROSGEGRAMMENI
zR ETA WITH DASIA AND VARIA AND PROSGEGRAMMENI
zR ETA WITH PSILI AND OXIA AND PROSGEGRAMMENI
zR ETA WITH DASIA AND OXIA AND PROSGEGRAMMENI
zR ETA WITH PSILI AND PERISPOMENI AND PROSGEGRAMMENI
zR ETA WITH DASIA AND PERISPOMENI AND PROSGEGRAMMENI
mSMALL LETTER OMEGA WITH PSILI AND YPOGEGRAMMENI
zOMEGA WITH DASIA AND YPOGEGRAMMENI
zOMEGA WITH PSILI AND VARIA AND YPOGEGRAMMENI
zOMEGA WITH DASIA AND VARIA AND YPOGEGRAMMENI
zOMEGA WITH PSILI AND OXIA AND YPOGEGRAMMENI
zOMEGA WITH DASIA AND OXIA AND YPOGEGRAMMENI
zOMEGA WITH PSILI AND PERISPOMENI AND YPOGEGRAMMENI
zOMEGA WITH DASIA AND PERISPOMENI AND YPOGEGRAMMENI
mCAPITAL LETTER OMEGA WITH PSILI AND PROSGEGRAMMENI
zR OMEGA WITH DASIA AND PROSGEGRAMMENI
zR OMEGA WITH PSILI AND VARIA AND PROSGEGRAMMENI
zR OMEGA WITH DASIA AND VARIA AND PROSGEGRAMMENI
zR OMEGA WITH PSILI AND OXIA AND PROSGEGRAMMENI
zR OMEGA WITH DASIA AND OXIA AND PROSGEGRAMMENI
zR OMEGA WITH PSILI AND PERISPOMENI AND PROSGEGRAMMENI
zR OMEGA WITH DASIA AND PERISPOMENI AND PROSGEGRAMMENI
mSMALL LETTER ALPHA WITH VRACHY
zALPHA WITH MACRON
zALPHA WITH VARIA AND YPOGEGRAMMENI
zALPHA WITH YPOGEGRAMMENI
zALPHA WITH OXIA AND YPOGEGRAMMENI
2zALPHA WITH PERISPOMENI
zALPHA WITH PERISPOMENI AND YPOGEGRAMMENI
mCAPITAL LETTER ALPHA WITH VRACHY
zR ALPHA WITH MACRON
zR ALPHA WITH VARIA
zR ALPHA WITH OXIA
zR ALPHA WITH PROSGEGRAMMENI
mKORONIS
mPROSGEGRAMMENI
nSILI
nERISPOMENI
mDIALYTIKA AND PERISPOMENI
mSMALL LETTER ETA WITH VARIA AND YPOGEGRAMMENI
zETA WITH YPOGEGRAMMENI
zETA WITH OXIA AND YPOGEGRAMMENI
2zETA WITH PERISPOMENI
zETA WITH PERISPOMENI AND YPOGEGRAMMENI
mCAPITAL LETTER EPSILON WITH VARIA
zR EPSILON WITH OXIA
zR ETA WITH VARIA
zR ETA WITH OXIA
zR ETA WITH PROSGEGRAMMENI
mPSILI AND VARIA
wOXIA
wPERISPOMENI
mSMALL LETTER IOTA WITH VRACHY
zIOTA WITH MACRON
zIOTA WITH DIALYTIKA AND VARIA
zIOTA WITH DIALYTIKA AND OXIA
3zIOTA WITH PERISPOMENI
zIOTA WITH DIALYTIKA AND PERISPOMENI
mCAPITAL LETTER IOTA WITH VRACHY
zR IOTA WITH MACRON
zR IOTA WITH VARIA
zR IOTA WITH OXIA
2mDASIA AND VARIA
wOXIA
wPERISPOMENI
mSMALL LETTER UPSILON WITH VRACHY
zUPSILON WITH MACRON
zUPSILON WITH DIALYTIKA AND VARIA
zUPSILON WITH DIALYTIKA AND OXIA
zRHO WITH PSILI
zRHO WITH DASIA
zUPSILON WITH PERISPOMENI
zUPSILON WITH DIALYTIKA AND PERISPOMENI
mCAPITAL LETTER UPSILON WITH VRACHY
zR UPSILON WITH MACRON
zR UPSILON WITH VARIA
zR UPSILON WITH OXIA
zR RHO WITH DASIA
mDIALYTIKA AND VARIA
z OXIA
mVARIA
3mSMALL LETTER OMEGA WITH VARIA AND YPOGEGRAMMENI
zOMEGA WITH YPOGEGRAMMENI
zOMEGA WITH OXIA AND YPOGEGRAMMENI
2zOMEGA WITH PERISPOMENI
zOMEGA WITH PERISPOMENI AND YPOGEGRAMMENI
mCAPITAL LETTER OMICRON WITH VARIA
zR OMICRON WITH OXIA
zR OMEGA WITH VARIA
zR OMEGA WITH OXIA
zR OMEGA WITH PROSGEGRAMMENI
mOXIA
mDASIA
2gEN QUAD
hM QUAD
hN SPACE
hM SPACE
gTHREE-PER-EM SPACE
gFOUR-PER-EM SPACE
gSIX-PER-EM SPACE
gFIGURE SPACE
gPUNCTUATION SPACE
gTHIN SPACE
gHAIR SPACE
gZERO WIDTH SPACE
0hWSP
hERO WIDTH NON-JOINER
0hWNJ
hERO WIDTH JOINER
0hWJ
gLEFT-TO-RIGHT MARK
0hRM
gRIGHT-TO-LEFT MARK
0hLM
gHYPHEN
gNON-BREAKING HYPHEN
gFIGURE DASH
gEN DASH
hM DASH
gHORIZONTAL BAR
gDOUBLE VERTICAL LINE
nLOW LINE
gLEFT SINGLE QUOTATION MARK
gRIGHT SINGLE QUOTATION MARK
gSINGLE LOW-9 QUOTATION MARK
nHIGH-REVERSED-9 QUOTATION MARK
gLEFT DOUBLE QUOTATION MARK
gRIGHT DOUBLE QUOTATION MARK
gDOUBLE LOW-9 QUOTATION MARK
nHIGH-REVERSED-9 QUOTATION MARK
hAGGER
hOUBLE DAGGER
gBULLET
gTRIANGULAR BULLET
gONE DOT LEADER
gTWO DOT LEADER
gHORIZONTAL ELLIPSIS
hYPHENATION POINT
gLINE SEPARATOR
gPARAGRAPH SEPARATOR
gLEFT-TO-RIGHT EMBEDDING
0hRE
gRIGHT-TO-LEFT EMBEDDING
0hLE
gPDF
0hOP DIRECTIONAL FORMATTING
gLEFT-TO-RIGHT OVERRIDE
0hRO
gRIGHT-TO-LEFT OVERRIDE
0hLO
gNARROW NO-BREAK SPACE
0hNBSP
gPER MILLE SIGN
kTEN THOUSAND SIGN
hRIME
gDOUBLE PRIME
gTRIPLE PRIME
gREVERSED PRIME
pDOUBLE PRIME
pTRIPLE PRIME
gCARET
gSINGLE LEFT-POINTING ANGLE QUOTATION MARK
nRIGHT-POINTING ANGLE QUOTATION MARK
gREFERENCE MARK
gDOUBLE EXCLAMATION MARK
gINTERROBANG
gOVERLINE
gUNDERTIE
gCHARACTER TIE
hARET INSERTION POINT
gASTERISM
gHYPHEN BULLET
gFRACTION SLASH
gLEFT SQUARE BRACKET WITH QUILL
gRIGHT SQUARE BRACKET WITH QUILL
gDOUBLE QUESTION MARK
gQUESTION EXCLAMATION MARK
gEXCLAMATION QUESTION MARK
gTIRONIAN SIGN ET
gREVERSED PILCROW SIGN
gBLACK LEFTWARDS BULLET
mRIGHTWARDS BULLET
gLOW ASTERISK
gREVERSED SEMICOLON
gCLOSE UP
gTWO ASTERISKS ALIGNED VERTICALLY
gCOMMERCIAL MINUS SIGN
gSWUNG DASH
gINVERTED UNDERTIE
gFLOWER PUNCTUATION MARK
gTHREE DOT PUNCTUATION
gQUADRUPLE PRIME
gFOUR DOT PUNCTUATION
hIVE DOT PUNCTUATION
gTWO DOT PUNCTUATION
gFOUR DOT MARK
gDOTTED CROSS
gTRICOLON
gVERTICAL FOUR DOTS
gMEDIUM MATHEMATICAL SPACE
0hMSP
gWJ
0hORD JOINER
gFUNCTION APPLICATION
gINVISIBLE TIMES
qSEPARATOR
qPLUS
2gLEFT-TO-RIGHT ISOLATE
0hRI
gRIGHT-TO-LEFT ISOLATE
0hLI
gFIRST STRONG ISOLATE
0hSI
gPDI
0hOP DIRECTIONAL ISOLATE
gINHIBIT SYMMETRIC SWAPPING
gACTIVATE SYMMETRIC SWAPPING
gINHIBIT ARABIC FORM SHAPING
gACTIVATE ARABIC FORM SHAPING
gNATIONAL DIGIT SHAPES
hOMINAL DIGIT SHAPES
gSUPERSCRIPT ZERO
sLATIN SMALL LETTER I
3sFOUR
tIVE
sSIX
tEVEN
sEIGHT
sNINE
sPLUS SIGN
sMINUS
sEQUALS SIGN
sLEFT PARENTHESIS
sRIGHT PARENTHESIS
sLATIN SMALL LETTER N
iBSCRIPT ZERO
qONE
qTWO
rHREE
qFOUR
rIVE
qSIX
rEVEN
qEIGHT
qNINE
qPLUS SIGN
qMINUS
qEQUALS SIGN
qLEFT PARENTHESIS
qRIGHT PARENTHESIS
2gLATIN SUBSCRIPT SMALL LETTER A
zLL LETTER E
zLL LETTER O
zLL LETTER X
zLL LETTER SCHWA
zLL LETTER H
zLL LETTER K
zLL LETTER L
zLL LETTER M
zLL LETTER N
zLL LETTER P
zLL LETTER S
zLL LETTER T
4gEURO-CURRENCY SIGN
gCOLON SIGN
hRUZEIRO SIGN
gFRENCH FRANC SIGN
gLIRA SIGN
gMILL SIGN
gNAIRA SIGN
gPESETA SIGN
gRUPEE SIGN
gWON SIGN
gNEW SHEQEL SIGN
gDONG SIGN
gEURO SIGN
gKIP SIGN
gTUGRIK SIGN
gDRACHMA SIGN
gGERMAN PENNY SIGN
gPESO SIGN
gGUARANI SIGN
gAUSTRAL SIGN
gHRYVNIA SIGN
gCEDI SIGN
gLIVRE TOURNOIS SIGN
gSPESMILO SIGN
gTENGE SIGN
gINDIAN RUPEE SIGN
gTURKISH LIRA SIGN
gNORDIC MARK SIGN
gMANAT SIGN
gRUBLE SIGN
gLARI SIGN
gBITCOIN SIGN
gSOM SIGN
10gCOMBINING LEFT HARPOON ABOVE
qRIGHT HARPOON ABOVE
qLONG VERTICAL LINE OVERLAY
qSHORT VERTICAL LINE OVERLAY
qANTICLOCKWISE ARROW ABOVE
qCLOCKWISE ARROW ABOVE
qLEFT ARROW ABOVE
qRIGHT ARROW ABOVE
sNG OVERLAY
qCLOCKWISE RING OVERLAY
qANTICLOCKWISE RING OVERLAY
qTHREE DOTS ABOVE
qFOUR DOTS ABOVE
qENCLOSING CIRCLE
z SQUARE
z DIAMOND
z CIRCLE BACKSLASH
qLEFT RIGHT ARROW ABOVE
qENCLOSING SCREEN
z KEYCAP
z UPWARD POINTING TRIANGLE
qREVERSE SOLIDUS OVERLAY
qDOUBLE VERTICAL STROKE OVERLAY
qANNUITY SYMBOL
qTRIPLE UNDERDOT
qWIDE BRIDGE ABOVE
qLEFTWARDS ARROW OVERLAY
rONG DOUBLE SOLIDUS OVERLAY
qRIGHTWARDS HARPOON WITH BARB DOWNWARDS
qLEFTWARDS HARPOON WITH BARB DOWNWARDS
u ARROW BELOW
qRIGHT ARROW BELOW
qASTERISK ABOVE
10gACCOUNT OF
hDDRESSED TO THE SUBJECT
gDOUBLE-STRUCK CAPITAL C
hEGREE CELSIUS
gCENTRE LINE SYMBOL
hARE OF
iDA UNA
gEULER CONSTANT
gSCRUPLE
gDEGREE FAHRENHEIT
gSCRIPT SMALL G
nCAPITAL H
gBLACK-LETTER CAPITAL H
gDOUBLE-STRUCK CAPITAL H
gPLANCK CONSTANT
v OVER TWO PI
gSCRIPT CAPITAL I
gBLACK-LETTER CAPITAL I
gSCRIPT CAPITAL L
nSMALL L
gL B BAR SYMBOL
gDOUBLE-STRUCK CAPITAL N
gNUMERO SIGN
gSOUND RECORDING COPYRIGHT
hCRIPT CAPITAL P
0gWEIERSTRASS ELLIPTIC FUNCTION
gDOUBLE-STRUCK CAPITAL P
zAL Q
gSCRIPT CAPITAL R
gBLACK-LETTER CAPITAL R
gDOUBLE-STRUCK CAPITAL R
gPRESCRIPTION TAKE
gRESPONSE
gSERVICE MARK
gTELEPHONE SIGN
hRADE MARK SIGN
gVERSICLE
gDOUBLE-STRUCK CAPITAL Z
gOUNCE SIGN
hHM SIGN
gINVERTED OHM SIGN
gBLACK-LETTER CAPITAL Z
gTURNED GREEK SMALL LETTER IOTA
gKELVIN SIGN
gANGSTROM SIGN
gSCRIPT CAPITAL B
gBLACK-LETTER CAPITAL C
gESTIMATED SYMBOL
gSCRIPT SMALL E
nCAPITAL E
vF
gTURNED CAPITAL F
gSCRIPT CAPITAL M
nSMALL O
gALEF SYMBOL
gBET SYMBOL
gGIMEL SYMBOL
gDALET SYMBOL
gINFORMATION SOURCE
gROTATED CAPITAL Q
gFACSIMILE SIGN
gDOUBLE-STRUCK SMALL PI
z GAMMA
uCAPITAL GAMMA
zAL PI
uN-ARY SUMMATION
gTURNED SANS-SERIF CAPITAL G
zAPITAL L
gREVERSED SANS-SERIF CAPITAL L
gTURNED SANS-SERIF CAPITAL Y
gDOUBLE-STRUCK ITALIC CAPITAL D
zC SMALL D
zC SMALL E
zC SMALL I
zC SMALL J
gPROPERTY LINE
gTURNED AMPERSAND
gPER SIGN
gAKTIESELSKAB
gTURNED SMALL F
gSYMBOL FOR SAMARITAN SOURCE
gVULGAR FRACTION ONE SEVENTH
z NINTH
z TENTH
z THIRD
wTWO THIRDS
wONE FIFTH
wTWO FIFTHS
xHREE FIFTHS
wFOUR FIFTHS
wONE SIXTH
wFIVE SIXTHS
wONE EIGHTH
wTHREE EIGHTHS
wFIVE EIGHTHS
wSEVEN EIGHTHS
gFRACTION NUMERATOR ONE
gROMAN NUMERAL ONE
uTWO
vHREE
uFOUR
vIVE
uSIX
vEVEN
uEIGHT
uNINE
uTEN
uELEVEN
uTWELVE
uFIFTY
uONE HUNDRED
uFIVE HUNDRED
uONE THOUSAND
gSMALL ROMAN NUMERAL ONE
z TWO
z THREE
z FOUR
z FIVE
z SIX
z SEVEN
z EIGHT
z NINE
z TEN
z ELEVEN
z TWELVE
z FIFTY
z ONE HUNDRED
z FIVE HUNDRED
z ONE THOUSAND
gROMAN NUMERAL ONE THOUSAND C D
uFIVE THOUSAND
uTEN THOUSAND
uREVERSED ONE HUNDRED
gLATIN SMALL LETTER REVERSED C
gROMAN NUMERAL SIX LATE FORM
uFIFTY EARLY FORM
z THOUSAND
uONE HUNDRED THOUSAND
gVULGAR FRACTION ZERO THIRDS
gTURNED DIGIT TWO
uHREE
5gLEFTWARDS ARROW
gUPWARDS ARROW
gRIGHTWARDS ARROW
gDOWNWARDS ARROW
gLEFT RIGHT ARROW
gUP DOWN ARROW
gNORTH WEST ARROW
mEAST ARROW
gSOUTH EAST ARROW
mWEST ARROW
gLEFTWARDS ARROW WITH STROKE
gRIGHTWARDS ARROW WITH STROKE
gLEFTWARDS WAVE ARROW
gRIGHTWARDS WAVE ARROW
gLEFTWARDS TWO HEADED ARROW
gUPWARDS TWO HEADED ARROW
gRIGHTWARDS TWO HEADED ARROW
gDOWNWARDS TWO HEADED ARROW
gLEFTWARDS ARROW WITH TAIL
gRIGHTWARDS ARROW WITH TAIL
gLEFTWARDS ARROW FROM BAR
gUPWARDS ARROW FROM BAR
gRIGHTWARDS ARROW FROM BAR
gDOWNWARDS ARROW FROM BAR
gUP DOWN ARROW WITH BASE
gLEFTWARDS ARROW WITH HOOK
gRIGHTWARDS ARROW WITH HOOK
gLEFTWARDS ARROW WITH LOOP
gRIGHTWARDS ARROW WITH LOOP
gLEFT RIGHT WAVE ARROW
rARROW WITH STROKE
gDOWNWARDS ZIGZAG ARROW
gUPWARDS ARROW WITH TIP LEFTWARDS
zTIP RIGHTWARDS
gDOWNWARDS ARROW WITH TIP LEFTWARDS
zH TIP RIGHTWARDS
gRIGHTWARDS ARROW WITH CORNER DOWNWARDS
gDOWNWARDS ARROW WITH CORNER LEFTWARDS
gANTICLOCKWISE TOP SEMICIRCLE ARROW
gCLOCKWISE TOP SEMICIRCLE ARROW
gNORTH WEST ARROW TO LONG BAR
gLEFTWARDS ARROW TO BAR OVER RIGHTWARDS ARROW TO BAR
gANTICLOCKWISE OPEN CIRCLE ARROW
gCLOCKWISE OPEN CIRCLE ARROW
gLEFTWARDS HARPOON WITH BARB UPWARDS
zITH BARB DOWNWARDS
gUPWARDS HARPOON WITH BARB RIGHTWARDS
zH BARB LEFTWARDS
gRIGHTWARDS HARPOON WITH BARB UPWARDS
zWITH BARB DOWNWARDS
gDOWNWARDS HARPOON WITH BARB RIGHTWARDS
zITH BARB LEFTWARDS
gRIGHTWARDS ARROW OVER LEFTWARDS ARROW
gUPWARDS ARROW LEFTWARDS OF DOWNWARDS ARROW
gLEFTWARDS ARROW OVER RIGHTWARDS ARROW
qPAIRED ARROWS
gUPWARDS PAIRED ARROWS
gRIGHTWARDS PAIRED ARROWS
gDOWNWARDS PAIRED ARROWS
gLEFTWARDS HARPOON OVER RIGHTWARDS HARPOON
gRIGHTWARDS HARPOON OVER LEFTWARDS HARPOON
gLEFTWARDS DOUBLE ARROW WITH STROKE
k RIGHT DOUBLE ARROW WITH STROKE
gRIGHTWARDS DOUBLE ARROW WITH STROKE
gLEFTWARDS DOUBLE ARROW
gUPWARDS DOUBLE ARROW
gRIGHTWARDS DOUBLE ARROW
gDOWNWARDS DOUBLE ARROW
gLEFT RIGHT DOUBLE ARROW
gUP DOWN DOUBLE ARROW
gNORTH WEST DOUBLE ARROW
mEAST DOUBLE ARROW
gSOUTH EAST DOUBLE ARROW
mWEST DOUBLE ARROW
gLEFTWARDS TRIPLE ARROW
gRIGHTWARDS TRIPLE ARROW
gLEFTWARDS SQUIGGLE ARROW
gRIGHTWARDS SQUIGGLE ARROW
gUPWARDS ARROW WITH DOUBLE STROKE
gDOWNWARDS ARROW WITH DOUBLE STROKE
gLEFTWARDS DASHED ARROW
gUPWARDS DASHED ARROW
gRIGHTWARDS DASHED ARROW
gDOWNWARDS DASHED ARROW
gLEFTWARDS ARROW TO BAR
gRIGHTWARDS ARROW TO BAR
gLEFTWARDS WHITE ARROW
gUPWARDS WHITE ARROW
gRIGHTWARDS WHITE ARROW
gDOWNWARDS WHITE ARROW
gUPWARDS WHITE ARROW FROM BAR
z ON PEDESTAL
z ON PEDESTAL WITH HORIZONTAL BAR
z ON PEDESTAL WITH VERTICAL BAR
uDOUBLE ARROW
zE ARROW ON PEDESTAL
gRIGHTWARDS WHITE ARROW FROM WALL
gNORTH WEST ARROW TO CORNER
gSOUTH EAST ARROW TO CORNER
gUP DOWN WHITE ARROW
gRIGHT ARROW WITH SMALL CIRCLE
gDOWNWARDS ARROW LEFTWARDS OF UPWARDS ARROW
gTHREE RIGHTWARDS ARROWS
gLEFTWARDS ARROW WITH VERTICAL STROKE
gRIGHTWARDS ARROW WITH VERTICAL STROKE
gLEFT RIGHT ARROW WITH VERTICAL STROKE
kWARDS ARROW WITH DOUBLE VERTICAL STROKE
gRIGHTWARDS ARROW WITH DOUBLE VERTICAL STROKE
gLEFT RIGHT ARROW WITH DOUBLE VERTICAL STROKE
kWARDS OPEN-HEADED ARROW
gRIGHTWARDS OPEN-HEADED ARROW
gLEFT RIGHT OPEN-HEADED ARROW
gFOR ALL
gCOMPLEMENT
gPARTIAL DIFFERENTIAL
gTHERE EXISTS
mDOES NOT EXIST
gEMPTY SET
gINCREMENT
gNABLA
gELEMENT OF
gNOT AN ELEMENT OF
gSMALL ELEMENT OF
gCONTAINS AS MEMBER
gDOES NOT CONTAIN AS MEMBER
gSMALL CONTAINS AS MEMBER
gEND OF PROOF
gN-ARY PRODUCT
mCOPRODUCT
mSUMMATION
gMINUS SIGN
l-OR-PLUS SIGN
gDOT PLUS
hIVISION SLASH
gSET MINUS
gASTERISK OPERATOR
gRING OPERATOR
gBULLET OPERATOR
gSQUARE ROOT
gCUBE ROOT
gFOURTH ROOT
gPROPORTIONAL TO
gINFINITY
gRIGHT ANGLE
gANGLE
gMEASURED ANGLE
gSPHERICAL ANGLE
gDIVIDES
hOES NOT DIVIDE
gPARALLEL TO
gNOT PARALLEL TO
gLOGICAL AND
oOR
gINTERSECTION
gUNION
gINTEGRAL
gDOUBLE INTEGRAL
gTRIPLE INTEGRAL
gCONTOUR INTEGRAL
gSURFACE INTEGRAL
gVOLUME INTEGRAL
gCLOCKWISE INTEGRAL
qCONTOUR INTEGRAL
gANTICLOCKWISE CONTOUR INTEGRAL
gTHEREFORE
gBECAUSE
gRATIO
gPROPORTION
gDOT MINUS
gEXCESS
gGEOMETRIC PROPORTION
gHOMOTHETIC
gTILDE OPERATOR
gREVERSED TILDE
gINVERTED LAZY S
gSINE WAVE
gWREATH PRODUCT
gNOT TILDE
gMINUS TILDE
gASYMPTOTICALLY EQUAL TO
gNOT ASYMPTOTICALLY EQUAL TO
gAPPROXIMATELY EQUAL TO
uBUT NOT ACTUALLY EQUAL TO
gNEITHER APPROXIMATELY NOR ACTUALLY EQUAL TO
gALMOST EQUAL TO
gNOT ALMOST EQUAL TO
gALMOST EQUAL OR EQUAL TO
gTRIPLE TILDE
gALL EQUAL TO
gEQUIVALENT TO
gGEOMETRICALLY EQUIVALENT TO
gDIFFERENCE BETWEEN
gAPPROACHES THE LIMIT
gGEOMETRICALLY EQUAL TO
gAPPROXIMATELY EQUAL TO OR THE IMAGE OF
gIMAGE OF OR APPROXIMATELY EQUAL TO
gCOLON EQUALS
gEQUALS COLON
gRING IN EQUAL TO
lEQUAL TO
gCORRESPONDS TO
gESTIMATES
hQUIANGULAR TO
gSTAR EQUALS
gDELTA EQUAL TO
gEQUAL TO BY DEFINITION
gMEASURED BY
gQUESTIONED EQUAL TO
gNOT EQUAL TO
gIDENTICAL TO
gNOT IDENTICAL TO
gSTRICTLY EQUIVALENT TO
gLESS-THAN OR EQUAL TO
gGREATER-THAN OR EQUAL TO
gLESS-THAN OVER EQUAL TO
gGREATER-THAN OVER EQUAL TO
gLESS-THAN BUT NOT EQUAL TO
gGREATER-THAN BUT NOT EQUAL TO
gMUCH LESS-THAN
lGREATER-THAN
gBETWEEN
gNOT EQUIVALENT TO
kLESS-THAN
kGREATER-THAN
hEITHER LESS-THAN NOR EQUAL TO
oGREATER-THAN NOR EQUAL TO
gLESS-THAN OR EQUIVALENT TO
gGREATER-THAN OR EQUIVALENT TO
gNEITHER LESS-THAN NOR EQUIVALENT TO
oGREATER-THAN NOR EQUIVALENT TO
gLESS-THAN OR GREATER-THAN
gGREATER-THAN OR LESS-THAN
gNEITHER LESS-THAN NOR GREATER-THAN
oGREATER-THAN NOR LESS-THAN
gPRECEDES
gSUCCEEDS
gPRECEDES OR EQUAL TO
gSUCCEEDS OR EQUAL TO
gPRECEDES OR EQUIVALENT TO
gSUCCEEDS OR EQUIVALENT TO
gDOES NOT PRECEDE
pSUCCEED
gSUBSET OF
iPERSET OF
gNOT A SUBSET OF
oPERSET OF
gSUBSET OF OR EQUAL TO
iPERSET OF OR EQUAL TO
gNEITHER A SUBSET OF NOR EQUAL TO
sPERSET OF NOR EQUAL TO
gSUBSET OF WITH NOT EQUAL TO
iPERSET OF WITH NOT EQUAL TO
gMULTISET
o MULTIPLICATION
pUNION
gSQUARE IMAGE OF
nORIGINAL OF
nIMAGE OF OR EQUAL TO
nORIGINAL OF OR EQUAL TO
nCAP
oUP
gCIRCLED PLUS
oMINUS
oTIMES
oDIVISION SLASH
pOT OPERATOR
oRING OPERATOR
oASTERISK OPERATOR
oEQUALS
oDASH
gSQUARED PLUS
oMINUS
oTIMES
oDOT OPERATOR
gRIGHT TACK
gLEFT TACK
gDOWN TACK
gUP TACK
gASSERTION
gMODELS
gTRUE
gFORCES
gTRIPLE VERTICAL BAR RIGHT TURNSTILE
gDOUBLE VERTICAL BAR DOUBLE RIGHT TURNSTILE
iES NOT PROVE
gNOT TRUE
gDOES NOT FORCE
gNEGATED DOUBLE VERTICAL BAR DOUBLE RIGHT TURNSTILE
gPRECEDES UNDER RELATION
gSUCCEEDS UNDER RELATION
gNORMAL SUBGROUP OF
gCONTAINS AS NORMAL SUBGROUP
gNORMAL SUBGROUP OF OR EQUAL TO
gCONTAINS AS NORMAL SUBGROUP OR EQUAL TO
gORIGINAL OF
gIMAGE OF
gMULTIMAP
gHERMITIAN CONJUGATE MATRIX
gINTERCALATE
gXOR
gNAND
hOR
gRIGHT ANGLE WITH ARC
mTRIANGLE
gN-ARY LOGICAL AND
uOR
mINTERSECTION
mUNION
gDIAMOND OPERATOR
hOT OPERATOR
gSTAR OPERATOR
gDIVISION TIMES
gBOWTIE
gLEFT NORMAL FACTOR SEMIDIRECT PRODUCT
gRIGHT NORMAL FACTOR SEMIDIRECT PRODUCT
gLEFT SEMIDIRECT PRODUCT
gRIGHT SEMIDIRECT PRODUCT
hEVERSED TILDE EQUALS
gCURLY LOGICAL OR
uAND
gDOUBLE SUBSET
pPERSET
nINTERSECTION
nUNION
gPITCHFORK
gEQUAL AND PARALLEL TO
gLESS-THAN WITH DOT
gGREATER-THAN WITH DOT
gVERY MUCH LESS-THAN
qGREATER-THAN
gLESS-THAN EQUAL TO OR GREATER-THAN
gGREATER-THAN EQUAL TO OR LESS-THAN
gEQUAL TO OR LESS-THAN
sGREATER-THAN
sPRECEDES
sSUCCEEDS
gDOES NOT PRECEDE OR EQUAL
pSUCCEED OR EQUAL
gNOT SQUARE IMAGE OF OR EQUAL TO
rORIGINAL OF OR EQUAL TO
gSQUARE IMAGE OF OR NOT EQUAL TO
nORIGINAL OF OR NOT EQUAL TO
gLESS-THAN BUT NOT EQUIVALENT TO
gGREATER-THAN BUT NOT EQUIVALENT TO
gPRECEDES BUT NOT EQUIVALENT TO
gSUCCEEDS BUT NOT EQUIVALENT TO
gNOT NORMAL SUBGROUP OF
gDOES NOT CONTAIN AS NORMAL SUBGROUP
gNOT NORMAL SUBGROUP OF OR EQUAL TO
gDOES NOT CONTAIN AS NORMAL SUBGROUP OR EQUAL
gVERTICAL ELLIPSIS
gMIDLINE HORIZONTAL ELLIPSIS
gUP RIGHT DIAGONAL ELLIPSIS
gDOWN RIGHT DIAGONAL ELLIPSIS
gELEMENT OF WITH LONG HORIZONTAL STROKE
wVERTICAL BAR AT END OF HORIZONTAL STROKE
gSMALL ELEMENT OF WITH VERTICAL BAR AT END OF HORIZONTAL STROKE
gELEMENT OF WITH DOT ABOVE
wOVERBAR
gSMALL ELEMENT OF WITH OVERBAR
gELEMENT OF WITH UNDERBAR
wTWO HORIZONTAL STROKES
gCONTAINS WITH LONG HORIZONTAL STROKE
uVERTICAL BAR AT END OF HORIZONTAL STROKE
gSMALL CONTAINS WITH VERTICAL BAR AT END OF HORIZONTAL STROKE
gCONTAINS WITH OVERBAR
gSMALL CONTAINS WITH OVERBAR
gZ NOTATION BAG MEMBERSHIP
gDIAMETER SIGN
gELECTRIC ARROW
gHOUSE
gUP ARROWHEAD
gDOWN ARROWHEAD
gPROJECTIVE
hERSPECTIVE
gWAVY LINE
gLEFT CEILING
gRIGHT CEILING
gLEFT FLOOR
gRIGHT FLOOR
gBOTTOM RIGHT CROP
nLEFT CROP
gTOP RIGHT CROP
kLEFT CROP
gREVERSED NOT SIGN
gSQUARE LOZENGE
gARC
gSEGMENT
iCTOR
gTELEPHONE RECORDER
gPOSITION INDICATOR
gVIEWDATA SQUARE
gPLACE OF INTEREST SIGN
gTURNED NOT SIGN
gWATCH
gHOURGLASS
gTOP LEFT CORNER
kRIGHT CORNER
gBOTTOM LEFT CORNER
nRIGHT CORNER
gTOP HALF INTEGRAL
gBOTTOM HALF INTEGRAL
gFROWN
gSMILE
gUP ARROWHEAD BETWEEN TWO HORIZONTAL BARS
gOPTION KEY
gERASE TO THE RIGHT
gX IN A RECTANGLE BOX
gKEYBOARD
gLEFT-POINTING ANGLE BRACKET
gRIGHT-POINTING ANGLE BRACKET
gERASE TO THE LEFT
gBENZENE RING
gCYLINDRICITY
gALL AROUND-PROFILE
gSYMMETRY
gTOTAL RUNOUT
gDIMENSION ORIGIN
gCONICAL TAPER
gSLOPE
gCOUNTERBORE
nSINK
gAPL FUNCTIONAL SYMBOL I-BEAM
zOL SQUISH QUAD
zOL QUAD EQUAL
zOL QUAD DIVIDE
zOL QUAD DIAMOND
zOL QUAD JOT
zOL QUAD CIRCLE
zOL CIRCLE STILE
zOL CIRCLE JOT
zOL SLASH BAR
zOL BACKSLASH BAR
zOL QUAD SLASH
zOL QUAD BACKSLASH
zOL QUAD LESS-THAN
zOL QUAD GREATER-THAN
zOL LEFTWARDS VANE
zOL RIGHTWARDS VANE
zOL QUAD LEFTWARDS ARROW
zOL QUAD RIGHTWARDS ARROW
zOL CIRCLE BACKSLASH
zOL DOWN TACK UNDERBAR
zOL DELTA STILE
zOL QUAD DOWN CARET
zOL QUAD DELTA
zOL DOWN TACK JOT
zOL UPWARDS VANE
zOL QUAD UPWARDS ARROW
zOL UP TACK OVERBAR
zOL DEL STILE
zOL QUAD UP CARET
zOL QUAD DEL
zOL UP TACK JOT
zOL DOWNWARDS VANE
zOL QUAD DOWNWARDS ARROW
zOL QUOTE UNDERBAR
zOL DELTA UNDERBAR
zOL DIAMOND UNDERBAR
zOL JOT UNDERBAR
zOL CIRCLE UNDERBAR
zOL UP SHOE JOT
zOL QUOTE QUAD
zOL CIRCLE STAR
zOL QUAD COLON
zOL UP TACK DIAERESIS
zOL DEL DIAERESIS
zOL STAR DIAERESIS
zOL JOT DIAERESIS
zOL CIRCLE DIAERESIS
zOL DOWN SHOE STILE
zOL LEFT SHOE STILE
zOL TILDE DIAERESIS
zOL GREATER-THAN DIAERESIS
zOL COMMA BAR
zOL DEL TILDE
zOL ZILDE
zOL STILE TILDE
zOL SEMICOLON UNDERBAR
zOL QUAD NOT EQUAL
zOL QUAD QUESTION
zOL DOWN CARET TILDE
zOL UP CARET TILDE
zOL IOTA
zOL RHO
zOL OMEGA
zOL ALPHA UNDERBAR
zOL EPSILON UNDERBAR
zOL IOTA UNDERBAR
zOL OMEGA UNDERBAR
zOL ALPHA
gNOT CHECK MARK
gRIGHT ANGLE WITH DOWNWARDS ZIGZAG ARROW
gSHOULDERED OPEN BOX
gBELL SYMBOL
gVERTICAL LINE WITH MIDDLE DOT
gINSERTION SYMBOL
gCONTINUOUS UNDERLINE SYMBOL
gDISCONTINUOUS UNDERLINE SYMBOL
gEMPHASIS SYMBOL
gCOMPOSITION SYMBOL
gWHITE SQUARE WITH CENTRE VERTICAL LINE
gENTER SYMBOL
gALTERNATIVE KEY SYMBOL
gHELM SYMBOL
gCIRCLED HORIZONTAL BAR WITH NOTCH
oTRIANGLE DOWN
gBROKEN CIRCLE WITH NORTHWEST ARROW
gUNDO SYMBOL
gMONOSTABLE SYMBOL
gHYSTERESIS SYMBOL
gOPEN-CIRCUIT-OUTPUT H-TYPE SYMBOL
z L-TYPE SYMBOL
gPASSIVE-PULL-DOWN-OUTPUT SYMBOL
tUP-OUTPUT SYMBOL
gDIRECT CURRENT SYMBOL FORM TWO
gSOFTWARE-FUNCTION SYMBOL
gAPL FUNCTIONAL SYMBOL QUAD
gDECIMAL SEPARATOR KEY SYMBOL
gPREVIOUS PAGE
gNEXT PAGE
gPRINT SCREEN SYMBOL
gCLEAR SCREEN SYMBOL
gLEFT PARENTHESIS UPPER HOOK
xEXTENSION
xLOWER HOOK
gRIGHT PARENTHESIS UPPER HOOK
yEXTENSION
yLOWER HOOK
gLEFT SQUARE BRACKET UPPER CORNER
z EXTENSION
z LOWER CORNER
gRIGHT SQUARE BRACKET UPPER CORNER
zT EXTENSION
zT LOWER CORNER
gLEFT CURLY BRACKET UPPER HOOK
zMIDDLE PIECE
zLOWER HOOK
gCURLY BRACKET EXTENSION
gRIGHT CURLY BRACKET UPPER HOOK
z MIDDLE PIECE
z LOWER HOOK
gINTEGRAL EXTENSION
gHORIZONTAL LINE EXTENSION
gUPPER LEFT OR LOWER RIGHT CURLY BRACKET SECTION
mRIGHT OR LOWER LEFT CURLY BRACKET SECTION
gSUMMATION TOP
qBOTTOM
gTOP SQUARE BRACKET
gBOTTOM SQUARE BRACKET
zET OVER TOP SQUARE BRACKET
gRADICAL SYMBOL BOTTOM
gLEFT VERTICAL BOX LINE
gRIGHT VERTICAL BOX LINE
gHORIZONTAL SCAN LINE-1
zE-3
zE-7
zE-9
gDENTISTRY SYMBOL LIGHT VERTICAL AND TOP RIGHT
zGHT VERTICAL AND BOTTOM RIGHT
zGHT VERTICAL WITH CIRCLE
zGHT DOWN AND HORIZONTAL WITH CIRCLE
zGHT UP AND HORIZONTAL WITH CIRCLE
zGHT VERTICAL WITH TRIANGLE
zGHT DOWN AND HORIZONTAL WITH TRIANGLE
zGHT UP AND HORIZONTAL WITH TRIANGLE
zGHT VERTICAL AND WAVE
zGHT DOWN AND HORIZONTAL WITH WAVE
zGHT UP AND HORIZONTAL WITH WAVE
zGHT DOWN AND HORIZONTAL
zGHT UP AND HORIZONTAL
zGHT VERTICAL AND TOP LEFT
zGHT VERTICAL AND BOTTOM LEFT
gSQUARE FOOT
gRETURN SYMBOL
gEJECT SYMBOL
gVERTICAL LINE EXTENSION
gMETRICAL BREVE
pLONG OVER SHORT
pSHORT OVER LONG
pLONG OVER TWO SHORTS
pTWO SHORTS OVER LONG
z JOINED
qRISEME
qETRASEME
pPENTASEME
gEARTH GROUND
gFUSE
gTOP PARENTHESIS
gBOTTOM PARENTHESIS
gTOP CURLY BRACKET
gBOTTOM CURLY BRACKET
gTOP TORTOISE SHELL BRACKET
gBOTTOM TORTOISE SHELL BRACKET
gWHITE TRAPEZIUM
gBENZENE RING WITH CIRCLE
gSTRAIGHTNESS
gFLATNESS
gAC CURRENT
gELECTRICAL INTERSECTION
gDECIMAL EXPONENT SYMBOL
gBLACK RIGHT-POINTING DOUBLE TRIANGLE
mLEFT-POINTING DOUBLE TRIANGLE
mUP-POINTING DOUBLE TRIANGLE
mDOWN-POINTING DOUBLE TRIANGLE
mRIGHT-POINTING DOUBLE TRIANGLE WITH VERTICAL BAR
mLEFT-POINTING DOUBLE TRIANGLE WITH VERTICAL BAR
mRIGHT-POINTING TRIANGLE WITH DOUBLE VERTICAL BAR
gALARM CLOCK
gSTOPWATCH
gTIMER CLOCK
gHOURGLASS WITH FLOWING SAND
gBLACK MEDIUM LEFT-POINTING TRIANGLE
tRIGHT-POINTING TRIANGLE
tUP-POINTING TRIANGLE
tDOWN-POINTING TRIANGLE
gDOUBLE VERTICAL BAR
gBLACK SQUARE FOR STOP
mCIRCLE FOR RECORD
gPOWER SYMBOL
mON-OFF SYMBOL
o SYMBOL
mSLEEP SYMBOL
gOBSERVER EYE SYMBOL
gSYMBOL FOR NULL
rSTART OF HEADING
z TEXT
rEND OF TEXT
zRANSMISSION
tQUIRY
rACKNOWLEDGE
rBELL
sACKSPACE
rHORIZONTAL TABULATION
rLINE FEED
rVERTICAL TABULATION
rFORM FEED
rCARRIAGE RETURN
rSHIFT OUT
xIN
rDATA LINK ESCAPE
sEVICE CONTROL ONE
zONTROL TWO
zONTROL THREE
zONTROL FOUR
rNEGATIVE ACKNOWLEDGE
rSYNCHRONOUS IDLE
rEND OF TRANSMISSION BLOCK
rCANCEL
rEND OF MEDIUM
rSUBSTITUTE
rESCAPE
rFILE SEPARATOR
rGROUP SEPARATOR
rRECORD SEPARATOR
rUNIT SEPARATOR
rSPACE
rDELETE
gBLANK SYMBOL
gOPEN BOX
gSYMBOL FOR NEWLINE
rDELETE FORM TWO
rSUBSTITUTE FORM TWO
1agOCR HOOK
kCHAIR
kFORK
kINVERTED FORK
kBELT BUCKLE
lOW TIE
lRANCH BANK IDENTIFICATION
kAMOUNT OF CHECK
gMICR ON US SYMBOL
0gOCR DASH
gMICR DASH SYMBOL
0gOCR CUSTOMER ACCOUNT NUMBER
kDOUBLE BACKSLASH
16gCIRCLED DIGIT ONE
uTWO
vHREE
uFOUR
vIVE
uSIX
vEVEN
uEIGHT
uNINE
oNUMBER TEN
vELEVEN
vTWELVE
wHIRTEEN
vFOURTEEN
wIFTEEN
vSIXTEEN
wEVENTEEN
vEIGHTEEN
vNINETEEN
vTWENTY
gPARENTHESIZED DIGIT ONE
z TWO
z THREE
z FOUR
z FIVE
z SIX
z SEVEN
z EIGHT
z NINE
uNUMBER TEN
zR ELEVEN
zR TWELVE
zR THIRTEEN
zR FOURTEEN
zR FIFTEEN
zR SIXTEEN
zR SEVENTEEN
zR EIGHTEEN
zR NINETEEN
zR TWENTY
gDIGIT ONE FULL STOP
mTWO FULL STOP
nHREE FULL STOP
mFOUR FULL STOP
nIVE FULL STOP
mSIX FULL STOP
nEVEN FULL STOP
mEIGHT FULL STOP
mNINE FULL STOP
gNUMBER TEN FULL STOP
nELEVEN FULL STOP
nTWELVE FULL STOP
oHIRTEEN FULL STOP
nFOURTEEN FULL STOP
oIFTEEN FULL STOP
nSIXTEEN FULL STOP
oEVENTEEN FULL STOP
nEIGHTEEN FULL STOP
nNINETEEN FULL STOP
nTWENTY FULL STOP
gPARENTHESIZED LATIN SMALL LETTER A
z SMALL LETTER B
z SMALL LETTER C
z SMALL LETTER D
z SMALL LETTER E
z SMALL LETTER F
z SMALL LETTER G
z SMALL LETTER H
z SMALL LETTER I
z SMALL LETTER J
z SMALL LETTER K
z SMALL LETTER L
z SMALL LETTER M
z SMALL LETTER N
z SMALL LETTER O
z SMALL LETTER P
z SMALL LETTER Q
z SMALL LETTER R
z SMALL LETTER S
z SMALL LETTER T
z SMALL LETTER U
z SMALL LETTER V
z SMALL LETTER W
z SMALL LETTER X
z SMALL LETTER Y
z SMALL LETTER Z
gCIRCLED LATIN CAPITAL LETTER A
zAL LETTER B
zAL LETTER C
zAL LETTER D
zAL LETTER E
zAL LETTER F
zAL LETTER G
zAL LETTER H
zAL LETTER I
zAL LETTER J
zAL LETTER K
zAL LETTER L
zAL LETTER M
zAL LETTER N
zAL LETTER O
zAL LETTER P
zAL LETTER Q
zAL LETTER R
zAL LETTER S
zAL LETTER T
zAL LETTER U
zAL LETTER V
zAL LETTER W
zAL LETTER X
zAL LETTER Y
zAL LETTER Z
uSMALL LETTER A
z LETTER B
z LETTER C
z LETTER D
z LETTER E
z LETTER F
z LETTER G
z LETTER H
z LETTER I
z LETTER J
z LETTER K
z LETTER L
z LETTER M
z LETTER N
z LETTER O
z LETTER P
z LETTER Q
z LETTER R
z LETTER S
z LETTER T
z LETTER U
z LETTER V
z LETTER W
z LETTER X
z LETTER Y
z LETTER Z
oDIGIT ZERO
gNEGATIVE CIRCLED NUMBER ELEVEN
zMBER TWELVE
zMBER THIRTEEN
zMBER FOURTEEN
zMBER FIFTEEN
zMBER SIXTEEN
zMBER SEVENTEEN
zMBER EIGHTEEN
zMBER NINETEEN
zMBER TWENTY
gDOUBLE CIRCLED DIGIT ONE
zT TWO
zT THREE
zT FOUR
zT FIVE
zT SIX
zT SEVEN
zT EIGHT
zT NINE
vNUMBER TEN
gNEGATIVE CIRCLED DIGIT ZERO
gBOX DRAWINGS LIGHT HORIZONTAL
tHEAVY HORIZONTAL
tLIGHT VERTICAL
tHEAVY VERTICAL
tLIGHT TRIPLE DASH HORIZONTAL
tHEAVY TRIPLE DASH HORIZONTAL
tLIGHT TRIPLE DASH VERTICAL
tHEAVY TRIPLE DASH VERTICAL
tLIGHT QUADRUPLE DASH HORIZONTAL
tHEAVY QUADRUPLE DASH HORIZONTAL
tLIGHT QUADRUPLE DASH VERTICAL
tHEAVY QUADRUPLE DASH VERTICAL
tLIGHT DOWN AND RIGHT
tDOWN LIGHT AND RIGHT HEAVY
yHEAVY AND RIGHT LIGHT
tHEAVY DOWN AND RIGHT
tLIGHT DOWN AND LEFT
tDOWN LIGHT AND LEFT HEAVY
yHEAVY AND LEFT LIGHT
tHEAVY DOWN AND LEFT
tLIGHT UP AND RIGHT
tUP LIGHT AND RIGHT HEAVY
wHEAVY AND RIGHT LIGHT
tHEAVY UP AND RIGHT
tLIGHT UP AND LEFT
tUP LIGHT AND LEFT HEAVY
wHEAVY AND LEFT LIGHT
tHEAVY UP AND LEFT
tLIGHT VERTICAL AND RIGHT
tVERTICAL LIGHT AND RIGHT HEAVY
tUP HEAVY AND RIGHT DOWN LIGHT
tDOWN HEAVY AND RIGHT UP LIGHT
tVERTICAL HEAVY AND RIGHT LIGHT
tDOWN LIGHT AND RIGHT UP HEAVY
tUP LIGHT AND RIGHT DOWN HEAVY
tHEAVY VERTICAL AND RIGHT
tLIGHT VERTICAL AND LEFT
tVERTICAL LIGHT AND LEFT HEAVY
tUP HEAVY AND LEFT DOWN LIGHT
tDOWN HEAVY AND LEFT UP LIGHT
tVERTICAL HEAVY AND LEFT LIGHT
tDOWN LIGHT AND LEFT UP HEAVY
tUP LIGHT AND LEFT DOWN HEAVY
tHEAVY VERTICAL AND LEFT
tLIGHT DOWN AND HORIZONTAL
uEFT HEAVY AND RIGHT DOWN LIGHT
tRIGHT HEAVY AND LEFT DOWN LIGHT
tDOWN LIGHT AND HORIZONTAL HEAVY
yHEAVY AND HORIZONTAL LIGHT
tRIGHT LIGHT AND LEFT DOWN HEAVY
tLEFT LIGHT AND RIGHT DOWN HEAVY
tHEAVY DOWN AND HORIZONTAL
tLIGHT UP AND HORIZONTAL
uEFT HEAVY AND RIGHT UP LIGHT
tRIGHT HEAVY AND LEFT UP LIGHT
tUP LIGHT AND HORIZONTAL HEAVY
wHEAVY AND HORIZONTAL LIGHT
tRIGHT LIGHT AND LEFT UP HEAVY
tLEFT LIGHT AND RIGHT UP HEAVY
tHEAVY UP AND HORIZONTAL
tLIGHT VERTICAL AND HORIZONTAL
uEFT HEAVY AND RIGHT VERTICAL LIGHT
tRIGHT HEAVY AND LEFT VERTICAL LIGHT
tVERTICAL LIGHT AND HORIZONTAL HEAVY
tUP HEAVY AND DOWN HORIZONTAL LIGHT
tDOWN HEAVY AND UP HORIZONTAL LIGHT
tVERTICAL HEAVY AND HORIZONTAL LIGHT
tLEFT UP HEAVY AND RIGHT DOWN LIGHT
tRIGHT UP HEAVY AND LEFT DOWN LIGHT
tLEFT DOWN HEAVY AND RIGHT UP LIGHT
tRIGHT DOWN HEAVY AND LEFT UP LIGHT
tDOWN LIGHT AND UP HORIZONTAL HEAVY
tUP LIGHT AND DOWN HORIZONTAL HEAVY
tRIGHT LIGHT AND LEFT VERTICAL HEAVY
tLEFT LIGHT AND RIGHT VERTICAL HEAVY
tHEAVY VERTICAL AND HORIZONTAL
tLIGHT DOUBLE DASH HORIZONTAL
tHEAVY DOUBLE DASH HORIZONTAL
tLIGHT DOUBLE DASH VERTICAL
tHEAVY DOUBLE DASH VERTICAL
tDOUBLE HORIZONTAL
z VERTICAL
vWN SINGLE AND RIGHT DOUBLE
yDOUBLE AND RIGHT SINGLE
vUBLE DOWN AND RIGHT
vWN SINGLE AND LEFT DOUBLE
yDOUBLE AND LEFT SINGLE
vUBLE DOWN AND LEFT
tUP SINGLE AND RIGHT DOUBLE
wDOUBLE AND RIGHT SINGLE
tDOUBLE UP AND RIGHT
tUP SINGLE AND LEFT DOUBLE
wDOUBLE AND LEFT SINGLE
tDOUBLE UP AND LEFT
tVERTICAL SINGLE AND RIGHT DOUBLE
zAL DOUBLE AND RIGHT SINGLE
tDOUBLE VERTICAL AND RIGHT
tVERTICAL SINGLE AND LEFT DOUBLE
zAL DOUBLE AND LEFT SINGLE
tDOUBLE VERTICAL AND LEFT
vWN SINGLE AND HORIZONTAL DOUBLE
yDOUBLE AND HORIZONTAL SINGLE
vUBLE DOWN AND HORIZONTAL
tUP SINGLE AND HORIZONTAL DOUBLE
wDOUBLE AND HORIZONTAL SINGLE
tDOUBLE UP AND HORIZONTAL
tVERTICAL SINGLE AND HORIZONTAL DOUBLE
zAL DOUBLE AND HORIZONTAL SINGLE
tDOUBLE VERTICAL AND HORIZONTAL
tLIGHT ARC DOWN AND RIGHT
zARC DOWN AND LEFT
zARC UP AND LEFT
zARC UP AND RIGHT
zDIAGONAL UPPER RIGHT TO LOWER LEFT
zDIAGONAL UPPER LEFT TO LOWER RIGHT
zDIAGONAL CROSS
zLEFT
zUP
zRIGHT
zDOWN
tHEAVY LEFT
zUP
zRIGHT
zDOWN
tLIGHT LEFT AND HEAVY RIGHT
zUP AND HEAVY DOWN
tHEAVY LEFT AND LIGHT RIGHT
zUP AND LIGHT DOWN
gUPPER HALF BLOCK
gLOWER ONE EIGHTH BLOCK
qQUARTER BLOCK
mTHREE EIGHTHS BLOCK
mHALF BLOCK
mFIVE EIGHTHS BLOCK
mTHREE QUARTERS BLOCK
mSEVEN EIGHTHS BLOCK
gFULL BLOCK
gLEFT SEVEN EIGHTHS BLOCK
lTHREE QUARTERS BLOCK
lFIVE EIGHTHS BLOCK
lHALF BLOCK
lTHREE EIGHTHS BLOCK
lONE QUARTER BLOCK
pEIGHTH BLOCK
gRIGHT HALF BLOCK
gLIGHT SHADE
gMEDIUM SHADE
gDARK SHADE
gUPPER ONE EIGHTH BLOCK
gRIGHT ONE EIGHTH BLOCK
gQUADRANT LOWER LEFT
vRIGHT
pUPPER LEFT
z AND LOWER LEFT AND LOWER RIGHT
z AND LOWER RIGHT
z AND UPPER RIGHT AND LOWER LEFT
z AND UPPER RIGHT AND LOWER RIGHT
vRIGHT
zT AND LOWER LEFT
zT AND LOWER LEFT AND LOWER RIGHT
gBLACK SQUARE
gWHITE SQUARE
s WITH ROUNDED CORNERS
tCONTAINING BLACK SMALL SQUARE
gSQUARE WITH HORIZONTAL FILL
sVERTICAL FILL
sORTHOGONAL CROSSHATCH FILL
sUPPER LEFT TO LOWER RIGHT FILL
yRIGHT TO LOWER LEFT FILL
sDIAGONAL CROSSHATCH FILL
gBLACK SMALL SQUARE
gWHITE SMALL SQUARE
gBLACK RECTANGLE
gWHITE RECTANGLE
gBLACK VERTICAL RECTANGLE
gWHITE VERTICAL RECTANGLE
gBLACK PARALLELOGRAM
gWHITE PARALLELOGRAM
gBLACK UP-POINTING TRIANGLE
gWHITE UP-POINTING TRIANGLE
gBLACK UP-POINTING SMALL TRIANGLE
gWHITE UP-POINTING SMALL TRIANGLE
gBLACK RIGHT-POINTING TRIANGLE
gWHITE RIGHT-POINTING TRIANGLE
gBLACK RIGHT-POINTING SMALL TRIANGLE
gWHITE RIGHT-POINTING SMALL TRIANGLE
gBLACK RIGHT-POINTING POINTER
gWHITE RIGHT-POINTING POINTER
gBLACK DOWN-POINTING TRIANGLE
gWHITE DOWN-POINTING TRIANGLE
gBLACK DOWN-POINTING SMALL TRIANGLE
gWHITE DOWN-POINTING SMALL TRIANGLE
gBLACK LEFT-POINTING TRIANGLE
gWHITE LEFT-POINTING TRIANGLE
gBLACK LEFT-POINTING SMALL TRIANGLE
gWHITE LEFT-POINTING SMALL TRIANGLE
gBLACK LEFT-POINTING POINTER
gWHITE LEFT-POINTING POINTER
gBLACK DIAMOND
gWHITE DIAMOND
t CONTAINING BLACK SMALL DIAMOND
gFISHEYE
gLOZENGE
gWHITE CIRCLE
gDOTTED CIRCLE
gCIRCLE WITH VERTICAL FILL
gBULLSEYE
hLACK CIRCLE
gCIRCLE WITH LEFT HALF BLACK
sRIGHT HALF BLACK
sLOWER HALF BLACK
sUPPER HALF BLACK
yRIGHT QUADRANT BLACK
sALL BUT UPPER LEFT QUADRANT BLACK
gLEFT HALF BLACK CIRCLE
gRIGHT HALF BLACK CIRCLE
gINVERSE BULLET
oWHITE CIRCLE
gUPPER HALF INVERSE WHITE CIRCLE
gLOWER HALF INVERSE WHITE CIRCLE
gUPPER LEFT QUADRANT CIRCULAR ARC
mRIGHT QUADRANT CIRCULAR ARC
gLOWER RIGHT QUADRANT CIRCULAR ARC
mLEFT QUADRANT CIRCULAR ARC
gUPPER HALF CIRCLE
gLOWER HALF CIRCLE
gBLACK LOWER RIGHT TRIANGLE
sLEFT TRIANGLE
mUPPER LEFT TRIANGLE
sRIGHT TRIANGLE
gWHITE BULLET
gSQUARE WITH LEFT HALF BLACK
sRIGHT HALF BLACK
sUPPER LEFT DIAGONAL HALF BLACK
sLOWER RIGHT DIAGONAL HALF BLACK
gWHITE SQUARE WITH VERTICAL BISECTING LINE
mUP-POINTING TRIANGLE WITH DOT
gUP-POINTING TRIANGLE WITH LEFT HALF BLACK
zE WITH RIGHT HALF BLACK
gLARGE CIRCLE
gWHITE SQUARE WITH UPPER LEFT QUADRANT
yLOWER LEFT QUADRANT
zOWER RIGHT QUADRANT
yUPPER RIGHT QUADRANT
mCIRCLE WITH UPPER LEFT QUADRANT
yLOWER LEFT QUADRANT
zOWER RIGHT QUADRANT
yUPPER RIGHT QUADRANT
gUPPER LEFT TRIANGLE
mRIGHT TRIANGLE
gLOWER LEFT TRIANGLE
gWHITE MEDIUM SQUARE
gBLACK MEDIUM SQUARE
gWHITE MEDIUM SMALL SQUARE
gBLACK MEDIUM SMALL SQUARE
gLOWER RIGHT TRIANGLE
gBLACK SUN WITH RAYS
gCLOUD
gUMBRELLA
gSNOWMAN
gCOMET
gBLACK STAR
gWHITE STAR
gLIGHTNING
gTHUNDERSTORM
gSUN
gASCENDING NODE
gDESCENDING NODE
gCONJUNCTION
gOPPOSITION
gBLACK TELEPHONE
gWHITE TELEPHONE
gBALLOT BOX
q WITH CHECK
wX
gSALTIRE
gUMBRELLA WITH RAIN DROPS
gHOT BEVERAGE
gWHITE SHOGI PIECE
gBLACK SHOGI PIECE
gSHAMROCK
gREVERSED ROTATED FLORAL HEART BULLET
gBLACK LEFT POINTING INDEX
mRIGHT POINTING INDEX
gWHITE LEFT POINTING INDEX
mUP POINTING INDEX
mRIGHT POINTING INDEX
mDOWN POINTING INDEX
gSKULL AND CROSSBONES
gCAUTION SIGN
gRADIOACTIVE SIGN
gBIOHAZARD SIGN
gCADUCEUS
gANKH
gORTHODOX CROSS
gCHI RHO
hROSS OF LORRAINE
pJERUSALEM
gSTAR AND CRESCENT
gFARSI SYMBOL
gADI SHAKTI
gHAMMER AND SICKLE
gPEACE SYMBOL
gYIN YANG
gTRIGRAM FOR HEAVEN
sLAKE
sFIRE
sTHUNDER
sWIND
tATER
sMOUNTAIN
sEARTH
gWHEEL OF DHARMA
iITE FROWNING FACE
mSMILING FACE
gBLACK SMILING FACE
gWHITE SUN WITH RAYS
gFIRST QUARTER MOON
gLAST QUARTER MOON
gMERCURY
gFEMALE SIGN
gEARTH
gMALE SIGN
gJUPITER
gSATURN
gURANUS
gNEPTUNE
gPLUTO
gARIES
gTAURUS
gGEMINI
gCANCER
gLEO
gVIRGO
gLIBRA
gSCORPIUS
hAGITTARIUS
gCAPRICORN
gAQUARIUS
gPISCES
gWHITE CHESS KING
sQUEEN
sROOK
sBISHOP
sKNIGHT
sPAWN
gBLACK CHESS KING
sQUEEN
sROOK
sBISHOP
sKNIGHT
sPAWN
mSPADE SUIT
gWHITE HEART SUIT
mDIAMOND SUIT
gBLACK CLUB SUIT
gWHITE SPADE SUIT
gBLACK HEART SUIT
mDIAMOND SUIT
gWHITE CLUB SUIT
gHOT SPRINGS
gQUARTER NOTE
gEIGHTH NOTE
gBEAMED EIGHTH NOTES
nSIXTEENTH NOTES
gMUSIC FLAT SIGN
mNATURAL SIGN
mSHARP SIGN
gWEST SYRIAC CROSS
gEAST SYRIAC CROSS
gUNIVERSAL RECYCLING SYMBOL
gRECYCLING SYMBOL FOR TYPE-1 PLASTICS
zR TYPE-2 PLASTICS
zR TYPE-3 PLASTICS
zR TYPE-4 PLASTICS
zR TYPE-5 PLASTICS
zR TYPE-6 PLASTICS
zR TYPE-7 PLASTICS
zR GENERIC MATERIALS
gBLACK UNIVERSAL RECYCLING SYMBOL
gRECYCLED PAPER SYMBOL
gPARTIALLY-RECYCLED PAPER SYMBOL
hERMANENT PAPER SIGN
gWHEELCHAIR SYMBOL
gDIE FACE-1
p2
p3
p4
p5
p6
gWHITE CIRCLE WITH DOT RIGHT
yTWO DOTS
gBLACK CIRCLE WITH WHITE DOT RIGHT
yTWO WHITE DOTS
gMONOGRAM FOR YANG
uIN
gDIGRAM FOR GREATER YANG
rLESSER YIN
zANG
rGREATER YIN
gWHITE FLAG
gBLACK FLAG
gHAMMER AND PICK
gANCHOR
gCROSSED SWORDS
gSTAFF OF AESCULAPIUS
hCALES
gALEMBIC
gFLOWER
gGEAR
gSTAFF OF HERMES
gATOM SYMBOL
gFLEUR-DE-LIS
gOUTLINED WHITE STAR
gTHREE LINES CONVERGING RIGHT
zING LEFT
gWARNING SIGN
gHIGH VOLTAGE SIGN
gDOUBLED FEMALE SIGN
oMALE SIGN
gINTERLOCKED FEMALE AND MALE SIGN
gMALE AND FEMALE SIGN
lWITH STROKE SIGN
xAND MALE AND FEMALE SIGN
gVERTICAL MALE WITH STROKE SIGN
gHORIZONTAL MALE WITH STROKE SIGN
gMEDIUM WHITE CIRCLE
nBLACK CIRCLE
nSMALL WHITE CIRCLE
hARRIAGE SYMBOL
gDIVORCE SYMBOL
gUNMARRIED PARTNERSHIP SYMBOL
gCOFFIN
gFUNERAL URN
gNEUTER
gCERES
gPALLAS
gJUNO
gVESTA
gCHIRON
gBLACK MOON LILITH
gSEXTILE
iMISEXTILE
gQUINCUNX
gSESQUIQUADRATE
hOCCER BALL
gBASEBALL
gSQUARED KEY
gWHITE DRAUGHTS MAN
vKING
gBLACK DRAUGHTS MAN
vKING
gSNOWMAN WITHOUT SNOW
hUN BEHIND CLOUD
gRAIN
gBLACK SNOWMAN
gTHUNDER CLOUD AND RAIN
hURNED WHITE SHOGI PIECE
nBLACK SHOGI PIECE
gWHITE DIAMOND IN SQUARE
gCROSSING LANES
gDISABLED CAR
gOPHIUCHUS
gPICK
gCAR SLIDING
gHELMET WITH WHITE CROSS
gCIRCLED CROSSING LANES
hHAINS
gNO ENTRY
gALTERNATE ONE-WAY LEFT WAY TRAFFIC
gBLACK TWO-WAY LEFT WAY TRAFFIC
gWHITE TWO-WAY LEFT WAY TRAFFIC
gBLACK LEFT LANE MERGE
gWHITE LEFT LANE MERGE
gDRIVE SLOW SIGN
gHEAVY WHITE DOWN-POINTING TRIANGLE
gLEFT CLOSED ENTRY
gSQUARED SALTIRE
gFALLING DIAGONAL IN WHITE CIRCLE IN BLACK SQUARE
gBLACK TRUCK
gRESTRICTED LEFT ENTRY-1
zRY-2
gASTRONOMICAL SYMBOL FOR URANUS
gHEAVY CIRCLE WITH STROKE AND TWO DOTS ABOVE
gPENTAGRAM
gRIGHT-HANDED INTERLACED PENTAGRAM
gLEFT-HANDED INTERLACED PENTAGRAM
gINVERTED PENTAGRAM
gBLACK CROSS ON SHIELD
gSHINTO SHRINE
gCHURCH
hASTLE
gHISTORIC SITE
gGEAR WITHOUT HUB
p HANDLES
gMAP SYMBOL FOR LIGHTHOUSE
hOUNTAIN
gUMBRELLA ON GROUND
gFOUNTAIN
hLAG IN HOLE
hERRY
gSAILBOAT
hQUARE FOUR CORNERS
hKIER
gICE SKATE
gPERSON WITH BALL
gTENT
gJAPANESE BANK SYMBOL
gHEADSTONE GRAVEYARD SYMBOL
gFUEL PUMP
gCUP ON BLACK SQUARE
gWHITE FLAG WITH HORIZONTAL MIDDLE BLACK STRIPE
gBLACK SAFETY SCISSORS
gUPPER BLADE SCISSORS
gBLACK SCISSORS
gLOWER BLADE SCISSORS
gWHITE SCISSORS
mHEAVY CHECK MARK
gTELEPHONE LOCATION SIGN
hAPE DRIVE
gAIRPLANE
gENVELOPE
gRAISED FIST
nHAND
gVICTORY HAND
gWRITING HAND
gLOWER RIGHT PENCIL
gPENCIL
gUPPER RIGHT PENCIL
gWHITE NIB
gBLACK NIB
gCHECK MARK
gHEAVY CHECK MARK
gMULTIPLICATION X
gHEAVY MULTIPLICATION X
gBALLOT X
gHEAVY BALLOT X
gOUTLINED GREEK CROSS
gHEAVY GREEK CROSS
gOPEN CENTRE CROSS
gHEAVY OPEN CENTRE CROSS
gLATIN CROSS
gSHADOWED WHITE LATIN CROSS
gOUTLINED LATIN CROSS
gMALTESE CROSS
gSTAR OF DAVID
gFOUR TEARDROP-SPOKED ASTERISK
lBALLOON-SPOKED ASTERISK
gHEAVY FOUR BALLOON-SPOKED ASTERISK
gFOUR CLUB-SPOKED ASTERISK
gBLACK FOUR POINTED STAR
gWHITE FOUR POINTED STAR
gSPARKLES
hTRESS OUTLINED WHITE STAR
gCIRCLED WHITE STAR
gOPEN CENTRE BLACK STAR
gBLACK CENTRE WHITE STAR
gOUTLINED BLACK STAR
gHEAVY OUTLINED BLACK STAR
gPINWHEEL STAR
gSHADOWED WHITE STAR
gHEAVY ASTERISK
gOPEN CENTRE ASTERISK
gEIGHT SPOKED ASTERISK
mPOINTED BLACK STAR
uPINWHEEL STAR
gSIX POINTED BLACK STAR
gEIGHT POINTED RECTILINEAR BLACK STAR
gHEAVY EIGHT POINTED RECTILINEAR BLACK STAR
gTWELVE POINTED BLACK STAR
gSIXTEEN POINTED ASTERISK
gTEARDROP-SPOKED ASTERISK
gOPEN CENTRE TEARDROP-SPOKED ASTERISK
gHEAVY TEARDROP-SPOKED ASTERISK
gSIX PETALLED BLACK AND WHITE FLORETTE
gBLACK FLORETTE
gWHITE FLORETTE
gEIGHT PETALLED OUTLINED BLACK FLORETTE
gCIRCLED OPEN CENTRE EIGHT POINTED STAR
gHEAVY TEARDROP-SPOKED PINWHEEL ASTERISK
gSNOWFLAKE
gTIGHT TRIFOLIATE SNOWFLAKE
gHEAVY CHEVRON SNOWFLAKE
gSPARKLE
gHEAVY SPARKLE
gBALLOON-SPOKED ASTERISK
gEIGHT TEARDROP-SPOKED PROPELLER ASTERISK
gHEAVY EIGHT TEARDROP-SPOKED PROPELLER ASTERISK
gCROSS MARK
gSHADOWED WHITE CIRCLE
gNEGATIVE SQUARED CROSS MARK
gLOWER RIGHT DROP-SHADOWED WHITE SQUARE
gUPPER RIGHT DROP-SHADOWED WHITE SQUARE
gLOWER RIGHT SHADOWED WHITE SQUARE
gUPPER RIGHT SHADOWED WHITE SQUARE
gBLACK QUESTION MARK ORNAMENT
gWHITE QUESTION MARK ORNAMENT
mEXCLAMATION MARK ORNAMENT
gBLACK DIAMOND MINUS WHITE X
gHEAVY EXCLAMATION MARK SYMBOL
gLIGHT VERTICAL BAR
gMEDIUM VERTICAL BAR
gHEAVY VERTICAL BAR
mSINGLE TURNED COMMA QUOTATION MARK ORNAMENT
tCOMMA QUOTATION MARK ORNAMENT
mDOUBLE TURNED COMMA QUOTATION MARK ORNAMENT
tCOMMA QUOTATION MARK ORNAMENT
mLOW SINGLE COMMA QUOTATION MARK ORNAMENT
qDOUBLE COMMA QUOTATION MARK ORNAMENT
gCURVED STEM PARAGRAPH SIGN ORNAMENT
gHEAVY EXCLAMATION MARK ORNAMENT
mHEART EXCLAMATION MARK ORNAMENT
mBLACK HEART
gROTATED HEAVY BLACK HEART BULLET
gFLORAL HEART
gROTATED FLORAL HEART BULLET
gMEDIUM LEFT PARENTHESIS ORNAMENT
nRIGHT PARENTHESIS ORNAMENT
nFLATTENED LEFT PARENTHESIS ORNAMENT
xRIGHT PARENTHESIS ORNAMENT
nLEFT-POINTING ANGLE BRACKET ORNAMENT
nRIGHT-POINTING ANGLE BRACKET ORNAMENT
gHEAVY LEFT-POINTING ANGLE QUOTATION MARK ORNAMENT
mRIGHT-POINTING ANGLE QUOTATION MARK ORNAMENT
mLEFT-POINTING ANGLE BRACKET ORNAMENT
mRIGHT-POINTING ANGLE BRACKET ORNAMENT
gLIGHT LEFT TORTOISE SHELL BRACKET ORNAMENT
mRIGHT TORTOISE SHELL BRACKET ORNAMENT
gMEDIUM LEFT CURLY BRACKET ORNAMENT
nRIGHT CURLY BRACKET ORNAMENT
gDINGBAT NEGATIVE CIRCLED DIGIT ONE
zRCLED DIGIT TWO
zRCLED DIGIT THREE
zRCLED DIGIT FOUR
zRCLED DIGIT FIVE
zRCLED DIGIT SIX
zRCLED DIGIT SEVEN
zRCLED DIGIT EIGHT
zRCLED DIGIT NINE
zRCLED NUMBER TEN
oCIRCLED SANS-SERIF DIGIT ONE
zS-SERIF DIGIT TWO
zS-SERIF DIGIT THREE
zS-SERIF DIGIT FOUR
zS-SERIF DIGIT FIVE
zS-SERIF DIGIT SIX
zS-SERIF DIGIT SEVEN
zS-SERIF DIGIT EIGHT
zS-SERIF DIGIT NINE
zS-SERIF NUMBER TEN
oNEGATIVE CIRCLED SANS-SERIF DIGIT ONE
zRCLED SANS-SERIF DIGIT TWO
zRCLED SANS-SERIF DIGIT THREE
zRCLED SANS-SERIF DIGIT FOUR
zRCLED SANS-SERIF DIGIT FIVE
zRCLED SANS-SERIF DIGIT SIX
zRCLED SANS-SERIF DIGIT SEVEN
zRCLED SANS-SERIF DIGIT EIGHT
zRCLED SANS-SERIF DIGIT NINE
zRCLED SANS-SERIF NUMBER TEN
gHEAVY WIDE-HEADED RIGHTWARDS ARROW
mPLUS SIGN
mMINUS SIGN
mDIVISION SIGN
mSOUTH EAST ARROW
mRIGHTWARDS ARROW
mNORTH EAST ARROW
gDRAFTING POINT RIGHTWARDS ARROW
gHEAVY ROUND-TIPPED RIGHTWARDS ARROW
gTRIANGLE-HEADED RIGHTWARDS ARROW
gHEAVY TRIANGLE-HEADED RIGHTWARDS ARROW
gDASHED TRIANGLE-HEADED RIGHTWARDS ARROW
gHEAVY DASHED TRIANGLE-HEADED RIGHTWARDS ARROW
gBLACK RIGHTWARDS ARROW
gTHREE-D TOP-LIGHTED RIGHTWARDS ARROWHEAD
oBOTTOM-LIGHTED RIGHTWARDS ARROWHEAD
gBLACK RIGHTWARDS ARROWHEAD
gHEAVY BLACK CURVED DOWNWARDS AND RIGHTWARDS ARROW
zUPWARDS AND RIGHTWARDS ARROW
gSQUAT BLACK RIGHTWARDS ARROW
gHEAVY CONCAVE-POINTED BLACK RIGHTWARDS ARROW
gRIGHT-SHADED WHITE RIGHTWARDS ARROW
gLEFT-SHADED WHITE RIGHTWARDS ARROW
gBACK-TILTED SHADOWED WHITE RIGHTWARDS ARROW
gFRONT-TILTED SHADOWED WHITE RIGHTWARDS ARROW
gHEAVY LOWER RIGHT-SHADOWED WHITE RIGHTWARDS ARROW
mUPPER RIGHT-SHADOWED WHITE RIGHTWARDS ARROW
gNOTCHED LOWER RIGHT-SHADOWED WHITE RIGHTWARDS ARROW
gCURLY LOOP
gNOTCHED UPPER RIGHT-SHADOWED WHITE RIGHTWARDS ARROW
gCIRCLED HEAVY WHITE RIGHTWARDS ARROW
gWHITE-FEATHERED RIGHTWARDS ARROW
gBLACK-FEATHERED SOUTH EAST ARROW
wRIGHTWARDS ARROW
wNORTH EAST ARROW
gHEAVY BLACK-FEATHERED SOUTH EAST ARROW
zED RIGHTWARDS ARROW
zED NORTH EAST ARROW
gTEARDROP-BARBED RIGHTWARDS ARROW
gHEAVY TEARDROP-SHANKED RIGHTWARDS ARROW
gWEDGE-TAILED RIGHTWARDS ARROW
gHEAVY WEDGE-TAILED RIGHTWARDS ARROW
gOPEN-OUTLINED RIGHTWARDS ARROW
gDOUBLE CURLY LOOP
gTHREE DIMENSIONAL ANGLE
gWHITE TRIANGLE CONTAINING SMALL WHITE TRIANGLE
gPERPENDICULAR
gOPEN SUBSET
nPERSET
gLEFT S-SHAPED BAG DELIMITER
gRIGHT S-SHAPED BAG DELIMITER
gOR WITH DOT INSIDE
gREVERSE SOLIDUS PRECEDING SUBSET
gSUPERSET PRECEDING SOLIDUS
gVERTICAL BAR WITH HORIZONTAL STROKE
gMATHEMATICAL RISING DIAGONAL
gLONG DIVISION
gMATHEMATICAL FALLING DIAGONAL
gSQUARED LOGICAL AND
wOR
gWHITE DIAMOND WITH CENTRED DOT
gAND WITH DOT
gELEMENT OF OPENING UPWARDS
gLOWER RIGHT CORNER WITH DOT
gUPPER LEFT CORNER WITH DOT
gLEFT OUTER JOIN
gRIGHT OUTER JOIN
gFULL OUTER JOIN
gLARGE UP TACK
mDOWN TACK
hEFT AND RIGHT DOUBLE TURNSTILE
vTACK
lMULTIMAP
hONG RIGHT TACK
lLEFT TACK
gUP TACK WITH CIRCLE ABOVE
gLOZENGE DIVIDED BY HORIZONTAL RULE
gWHITE CONCAVE-SIDED DIAMOND
z DIAMOND WITH LEFTWARDS TICK
z DIAMOND WITH RIGHTWARDS TICK
mSQUARE WITH LEFTWARDS TICK
yRIGHTWARDS TICK
gMATHEMATICAL LEFT WHITE SQUARE BRACKET
tRIGHT WHITE SQUARE BRACKET
tLEFT ANGLE BRACKET
tRIGHT ANGLE BRACKET
tLEFT DOUBLE ANGLE BRACKET
tRIGHT DOUBLE ANGLE BRACKET
tLEFT WHITE TORTOISE SHELL BRACKET
tRIGHT WHITE TORTOISE SHELL BRACKET
tLEFT FLATTENED PARENTHESIS
tRIGHT FLATTENED PARENTHESIS
gUPWARDS QUADRUPLE ARROW
gDOWNWARDS QUADRUPLE ARROW
gANTICLOCKWISE GAPPED CIRCLE ARROW
gCLOCKWISE GAPPED CIRCLE ARROW
gRIGHT ARROW WITH CIRCLED PLUS
gLONG LEFTWARDS ARROW
lRIGHTWARDS ARROW
lLEFT RIGHT ARROW
pWARDS DOUBLE ARROW
lRIGHTWARDS DOUBLE ARROW
lLEFT RIGHT DOUBLE ARROW
pWARDS ARROW FROM BAR
lRIGHTWARDS ARROW FROM BAR
lLEFTWARDS DOUBLE ARROW FROM BAR
lRIGHTWARDS DOUBLE ARROW FROM BAR
wSQUIGGLE ARROW
gBRAILLE PATTERN BLANK
wDOTS-1
zS-2
zS-12
zS-3
zS-13
zS-23
zS-123
zS-4
zS-14
zS-24
zS-124
zS-34
zS-134
zS-234
zS-1234
zS-5
zS-15
zS-25
zS-125
zS-35
zS-135
zS-235
zS-1235
zS-45
zS-145
zS-245
zS-1245
zS-345
zS-1345
zS-2345
zS-12345
zS-6
zS-16
zS-26
zS-126
zS-36
zS-136
zS-236
zS-1236
zS-46
zS-146
zS-246
zS-1246
zS-346
zS-1346
zS-2346
zS-12346
zS-56
zS-156
zS-256
zS-1256
zS-356
zS-1356
zS-2356
zS-12356
zS-456
zS-1456
zS-2456
zS-12456
zS-3456
zS-13456
zS-23456
zS-123456
zS-7
zS-17
zS-27
zS-127
zS-37
zS-137
zS-237
zS-1237
zS-47
zS-147
zS-247
zS-1247
zS-347
zS-1347
zS-2347
zS-12347
zS-57
zS-157
zS-257
zS-1257
zS-357
zS-1357
zS-2357
zS-12357
zS-457
zS-1457
zS-2457
zS-12457
zS-3457
zS-13457
zS-23457
zS-123457
zS-67
zS-167
zS-267
zS-1267
zS-367
zS-1367
zS-2367
zS-12367
zS-467
zS-1467
zS-2467
zS-12467
zS-3467
zS-13467
zS-23467
zS-123467
zS-567
zS-1567
zS-2567
zS-12567
zS-3567
zS-13567
zS-23567
zS-123567
zS-4567
zS-14567
zS-24567
zS-124567
zS-34567
zS-134567
zS-234567
zS-1234567
zS-8
zS-18
zS-28
zS-128
zS-38
zS-138
zS-238
zS-1238
zS-48
zS-148
zS-248
zS-1248
zS-348
zS-1348
zS-2348
zS-12348
zS-58
zS-158
zS-258
zS-1258
zS-358
zS-1358
zS-2358
zS-12358
zS-458
zS-1458
zS-2458
zS-12458
zS-3458
zS-13458
zS-23458
zS-123458
zS-68
zS-168
zS-268
zS-1268
zS-368
zS-1368
zS-2368
zS-12368
zS-468
zS-1468
zS-2468
zS-12468
zS-3468
zS-13468
zS-23468
zS-123468
zS-568
zS-1568
zS-2568
zS-12568
zS-3568
zS-13568
zS-23568
zS-123568
zS-4568
zS-14568
zS-24568
zS-124568
zS-34568
zS-134568
zS-234568
zS-1234568
zS-78
zS-178
zS-278
zS-1278
zS-378
zS-1378
zS-2378
zS-12378
zS-478
zS-1478
zS-2478
zS-12478
zS-3478
zS-13478
zS-23478
zS-123478
zS-578
zS-1578
zS-2578
zS-12578
zS-3578
zS-13578
zS-23578
zS-123578
zS-4578
zS-14578
zS-24578
zS-124578
zS-34578
zS-134578
zS-234578
zS-1234578
zS-678
zS-1678
zS-2678
zS-12678
zS-3678
zS-13678
zS-23678
zS-123678
zS-4678
zS-14678
zS-24678
zS-124678
zS-34678
zS-134678
zS-234678
zS-1234678
zS-5678
zS-15678
zS-25678
zS-125678
zS-35678
zS-135678
zS-235678
zS-1235678
zS-45678
zS-145678
zS-245678
zS-1245678
zS-345678
zS-1345678
zS-2345678
zS-12345678
gRIGHTWARDS TWO-HEADED ARROW WITH VERTICAL STROKE
zED ARROW WITH DOUBLE VERTICAL STROKE
gLEFTWARDS DOUBLE ARROW WITH VERTICAL STROKE
gRIGHTWARDS DOUBLE ARROW WITH VERTICAL STROKE
gLEFT RIGHT DOUBLE ARROW WITH VERTICAL STROKE
gRIGHTWARDS TWO-HEADED ARROW FROM BAR
gLEFTWARDS DOUBLE ARROW FROM BAR
gRIGHTWARDS DOUBLE ARROW FROM BAR
gDOWNWARDS ARROW WITH HORIZONTAL STROKE
gUPWARDS ARROW WITH HORIZONTAL STROKE
oTRIPLE ARROW
gDOWNWARDS TRIPLE ARROW
gLEFTWARDS DOUBLE DASH ARROW
gRIGHTWARDS DOUBLE DASH ARROW
gLEFTWARDS TRIPLE DASH ARROW
gRIGHTWARDS TRIPLE DASH ARROW
sWO-HEADED TRIPLE DASH ARROW
rARROW WITH DOTTED STEM
gUPWARDS ARROW TO BAR
gDOWNWARDS ARROW TO BAR
gRIGHTWARDS ARROW WITH TAIL WITH VERTICAL STROKE
zTH TAIL WITH DOUBLE VERTICAL STROKE
rTWO-HEADED ARROW WITH TAIL
zED ARROW WITH TAIL WITH VERTICAL STROKE
zED ARROW WITH TAIL WITH DOUBLE VERTICAL STROKE
gLEFTWARDS ARROW-TAIL
gRIGHTWARDS ARROW-TAIL
gLEFTWARDS DOUBLE ARROW-TAIL
gRIGHTWARDS DOUBLE ARROW-TAIL
gLEFTWARDS ARROW TO BLACK DIAMOND
gRIGHTWARDS ARROW TO BLACK DIAMOND
gLEFTWARDS ARROW FROM BAR TO BLACK DIAMOND
gRIGHTWARDS ARROW FROM BAR TO BLACK DIAMOND
gNORTH WEST AND SOUTH EAST ARROW
mEAST AND SOUTH WEST ARROW
mWEST ARROW WITH HOOK
mEAST ARROW WITH HOOK
gSOUTH EAST ARROW WITH HOOK
mWEST ARROW WITH HOOK
gNORTH WEST ARROW AND NORTH EAST ARROW
mEAST ARROW AND SOUTH EAST ARROW
gSOUTH EAST ARROW AND SOUTH WEST ARROW
mWEST ARROW AND NORTH WEST ARROW
gRISING DIAGONAL CROSSING FALLING DIAGONAL
gFALLING DIAGONAL CROSSING RISING DIAGONAL
gSOUTH EAST ARROW CROSSING NORTH EAST ARROW
gNORTH EAST ARROW CROSSING SOUTH EAST ARROW
gFALLING DIAGONAL CROSSING NORTH EAST ARROW
gRISING DIAGONAL CROSSING SOUTH EAST ARROW
gNORTH EAST ARROW CROSSING NORTH WEST ARROW
mWEST ARROW CROSSING NORTH EAST ARROW
gWAVE ARROW POINTING DIRECTLY RIGHT
gARROW POINTING RIGHTWARDS THEN CURVING UPWARDS
zTWARDS THEN CURVING DOWNWARDS
vDOWNWARDS THEN CURVING LEFTWARDS
zWARDS THEN CURVING RIGHTWARDS
gRIGHT-SIDE ARC CLOCKWISE ARROW
gLEFT-SIDE ARC ANTICLOCKWISE ARROW
gTOP ARC ANTICLOCKWISE ARROW
gBOTTOM ARC ANTICLOCKWISE ARROW
gTOP ARC CLOCKWISE ARROW WITH MINUS
oANTICLOCKWISE ARROW WITH PLUS
gLOWER RIGHT SEMICIRCULAR CLOCKWISE ARROW
mLEFT SEMICIRCULAR ANTICLOCKWISE ARROW
gANTICLOCKWISE CLOSED CIRCLE ARROW
gCLOCKWISE CLOSED CIRCLE ARROW
gRIGHTWARDS ARROW ABOVE SHORT LEFTWARDS ARROW
gLEFTWARDS ARROW ABOVE SHORT RIGHTWARDS ARROW
gSHORT RIGHTWARDS ARROW ABOVE LEFTWARDS ARROW
gRIGHTWARDS ARROW WITH PLUS BELOW
gLEFTWARDS ARROW WITH PLUS BELOW
gRIGHTWARDS ARROW THROUGH X
gLEFT RIGHT ARROW THROUGH SMALL CIRCLE
gUPWARDS TWO-HEADED ARROW FROM SMALL CIRCLE
gLEFT BARB UP RIGHT BARB DOWN HARPOON
qDOWN RIGHT BARB UP HARPOON
gUP BARB RIGHT DOWN BARB LEFT HARPOON
oLEFT DOWN BARB RIGHT HARPOON
gLEFT BARB UP RIGHT BARB UP HARPOON
gUP BARB RIGHT DOWN BARB RIGHT HARPOON
gLEFT BARB DOWN RIGHT BARB DOWN HARPOON
gUP BARB LEFT DOWN BARB LEFT HARPOON
gLEFTWARDS HARPOON WITH BARB UP TO BAR
gRIGHTWARDS HARPOON WITH BARB UP TO BAR
gUPWARDS HARPOON WITH BARB RIGHT TO BAR
gDOWNWARDS HARPOON WITH BARB RIGHT TO BAR
gLEFTWARDS HARPOON WITH BARB DOWN TO BAR
gRIGHTWARDS HARPOON WITH BARB DOWN TO BAR
gUPWARDS HARPOON WITH BARB LEFT TO BAR
gDOWNWARDS HARPOON WITH BARB LEFT TO BAR
gLEFTWARDS HARPOON WITH BARB UP FROM BAR
gRIGHTWARDS HARPOON WITH BARB UP FROM BAR
gUPWARDS HARPOON WITH BARB RIGHT FROM BAR
gDOWNWARDS HARPOON WITH BARB RIGHT FROM BAR
gLEFTWARDS HARPOON WITH BARB DOWN FROM BAR
gRIGHTWARDS HARPOON WITH BARB DOWN FROM BAR
gUPWARDS HARPOON WITH BARB LEFT FROM BAR
gDOWNWARDS HARPOON WITH BARB LEFT FROM BAR
gLEFTWARDS HARPOON WITH BARB UP ABOVE LEFTWARDS HARPOON WITH BARB DOWN
gUPWARDS HARPOON WITH BARB LEFT BESIDE UPWARDS HARPOON WITH BARB RIGHT
gRIGHTWARDS HARPOON WITH BARB UP ABOVE RIGHTWARDS HARPOON WITH BARB DOWN
gDOWNWARDS HARPOON WITH BARB LEFT BESIDE DOWNWARDS HARPOON WITH BARB RIGHT
gLEFTWARDS HARPOON WITH BARB UP ABOVE RIGHTWARDS HARPOON WITH BARB UP
zITH BARB DOWN ABOVE RIGHTWARDS HARPOON WITH BARB DOWN
gRIGHTWARDS HARPOON WITH BARB UP ABOVE LEFTWARDS HARPOON WITH BARB UP
zWITH BARB DOWN ABOVE LEFTWARDS HARPOON WITH BARB DOWN
gLEFTWARDS HARPOON WITH BARB UP ABOVE LONG DASH
zITH BARB DOWN BELOW LONG DASH
gRIGHTWARDS HARPOON WITH BARB UP ABOVE LONG DASH
zWITH BARB DOWN BELOW LONG DASH
gUPWARDS HARPOON WITH BARB LEFT BESIDE DOWNWARDS HARPOON WITH BARB RIGHT
gDOWNWARDS HARPOON WITH BARB LEFT BESIDE UPWARDS HARPOON WITH BARB RIGHT
gRIGHT DOUBLE ARROW WITH ROUNDED HEAD
gEQUALS SIGN ABOVE RIGHTWARDS ARROW
gTILDE OPERATOR ABOVE RIGHTWARDS ARROW
gLEFTWARDS ARROW ABOVE TILDE OPERATOR
gRIGHTWARDS ARROW ABOVE TILDE OPERATOR
zOVE ALMOST EQUAL TO
gLESS-THAN ABOVE LEFTWARDS ARROW
iFTWARDS ARROW THROUGH LESS-THAN
gGREATER-THAN ABOVE RIGHTWARDS ARROW
gSUBSET ABOVE RIGHTWARDS ARROW
gLEFTWARDS ARROW THROUGH SUBSET
gSUPERSET ABOVE LEFTWARDS ARROW
gLEFT FISH TAIL
gRIGHT FISH TAIL
gUP FISH TAIL
gDOWN FISH TAIL
gTRIPLE VERTICAL BAR DELIMITER
gZ NOTATION SPOT
rTYPE COLON
gLEFT WHITE CURLY BRACKET
gRIGHT WHITE CURLY BRACKET
gLEFT WHITE PARENTHESIS
gRIGHT WHITE PARENTHESIS
gZ NOTATION LEFT IMAGE BRACKET
rRIGHT IMAGE BRACKET
rLEFT BINDING BRACKET
rRIGHT BINDING BRACKET
gLEFT SQUARE BRACKET WITH UNDERBAR
gRIGHT SQUARE BRACKET WITH UNDERBAR
gLEFT SQUARE BRACKET WITH TICK IN TOP CORNER
gRIGHT SQUARE BRACKET WITH TICK IN BOTTOM CORNER
gLEFT SQUARE BRACKET WITH TICK IN BOTTOM CORNER
gRIGHT SQUARE BRACKET WITH TICK IN TOP CORNER
gLEFT ANGLE BRACKET WITH DOT
gRIGHT ANGLE BRACKET WITH DOT
gLEFT ARC LESS-THAN BRACKET
gRIGHT ARC GREATER-THAN BRACKET
gDOUBLE LEFT ARC GREATER-THAN BRACKET
nRIGHT ARC LESS-THAN BRACKET
gLEFT BLACK TORTOISE SHELL BRACKET
gRIGHT BLACK TORTOISE SHELL BRACKET
gDOTTED FENCE
gVERTICAL ZIGZAG LINE
gMEASURED ANGLE OPENING LEFT
gRIGHT ANGLE VARIANT WITH SQUARE
gMEASURED RIGHT ANGLE WITH DOT
gANGLE WITH S INSIDE
hCUTE ANGLE
gSPHERICAL ANGLE OPENING LEFT
zNING UP
gTURNED ANGLE
gREVERSED ANGLE
gANGLE WITH UNDERBAR
gREVERSED ANGLE WITH UNDERBAR
gOBLIQUE ANGLE OPENING UP
zNG DOWN
gMEASURED ANGLE WITH OPEN ARM ENDING IN ARROW POINTING UP AND RIGHT
z OPEN ARM ENDING IN ARROW POINTING UP AND LEFT
z OPEN ARM ENDING IN ARROW POINTING DOWN AND RIGHT
z OPEN ARM ENDING IN ARROW POINTING DOWN AND LEFT
z OPEN ARM ENDING IN ARROW POINTING RIGHT AND UP
z OPEN ARM ENDING IN ARROW POINTING LEFT AND UP
z OPEN ARM ENDING IN ARROW POINTING RIGHT AND DOWN
z OPEN ARM ENDING IN ARROW POINTING LEFT AND DOWN
gREVERSED EMPTY SET
gEMPTY SET WITH OVERBAR
vSMALL CIRCLE ABOVE
vRIGHT ARROW ABOVE
vLEFT ARROW ABOVE
gCIRCLE WITH HORIZONTAL BAR
mD VERTICAL BAR
oPARALLEL
oREVERSE SOLIDUS
oPERPENDICULAR
m DIVIDED BY HORIZONTAL BAR AND TOP HALF DIVIDED BY VERTICAL BAR
nWITH SUPERIMPOSED X
mD ANTICLOCKWISE-ROTATED DIVISION SIGN
gUP ARROW THROUGH CIRCLE
gCIRCLED WHITE BULLET
oBULLET
oLESS-THAN
oGREATER-THAN
m WITH SMALL CIRCLE TO THE RIGHT
sTWO HORIZONTAL STROKES TO THE RIGHT
gSQUARED RISING DIAGONAL SLASH
oFALLING DIAGONAL SLASH
oASTERISK
oSMALL CIRCLE
pQUARE
gTWO JOINED SQUARES
hRIANGLE WITH DOT ABOVE
uUNDERBAR
gS IN TRIANGLE
gTRIANGLE WITH SERIFS AT BOTTOM
gRIGHT TRIANGLE ABOVE LEFT TRIANGLE
gLEFT TRIANGLE BESIDE VERTICAL BAR
gVERTICAL BAR BESIDE RIGHT TRIANGLE
gBOWTIE WITH LEFT HALF BLACK
sRIGHT HALF BLACK
hLACK BOWTIE
gTIMES WITH LEFT HALF BLACK
rRIGHT HALF BLACK
gWHITE HOURGLASS
gBLACK HOURGLASS
gLEFT WIGGLY FENCE
gRIGHT WIGGLY FENCE
gLEFT DOUBLE WIGGLY FENCE
gRIGHT DOUBLE WIGGLY FENCE
gINCOMPLETE INFINITY
gTIE OVER INFINITY
gINFINITY NEGATED WITH VERTICAL BAR
gDOUBLE-ENDED MULTIMAP
gSQUARE WITH CONTOURED OUTLINE
gINCREASES AS
gSHUFFLE PRODUCT
gEQUALS SIGN AND SLANTED PARALLEL
zNTED PARALLEL WITH TILDE ABOVE
gIDENTICAL TO AND SLANTED PARALLEL
gGLEICH STARK
gTHERMODYNAMIC
gDOWN-POINTING TRIANGLE WITH LEFT HALF BLACK
zGLE WITH RIGHT HALF BLACK
gBLACK DIAMOND WITH DOWN ARROW
mLOZENGE
gWHITE CIRCLE WITH DOWN ARROW
gBLACK CIRCLE WITH DOWN ARROW
gERROR-BARRED WHITE SQUARE
tBLACK SQUARE
tWHITE DIAMOND
tBLACK DIAMOND
tWHITE CIRCLE
tBLACK CIRCLE
gRULE-DELAYED
hEVERSE SOLIDUS OPERATOR
gSOLIDUS WITH OVERBAR
gREVERSE SOLIDUS WITH HORIZONTAL STROKE
gBIG SOLIDUS
kREVERSE SOLIDUS
gDOUBLE PLUS
gTRIPLE PLUS
gLEFT-POINTING CURVED ANGLE BRACKET
gRIGHT-POINTING CURVED ANGLE BRACKET
gTINY
gMINY
gN-ARY CIRCLED DOT OPERATOR
uPLUS OPERATOR
uTIMES OPERATOR
mUNION OPERATOR WITH DOT
zR WITH PLUS
mSQUARE INTERSECTION OPERATOR
tUNION OPERATOR
gTWO LOGICAL AND OPERATOR
sOR OPERATOR
gN-ARY TIMES OPERATOR
gMODULO TWO SUM
gSUMMATION WITH INTEGRAL
gQUADRUPLE INTEGRAL OPERATOR
gFINITE PART INTEGRAL
gINTEGRAL WITH DOUBLE STROKE
pAVERAGE WITH SLASH
gCIRCULATION FUNCTION
gANTICLOCKWISE INTEGRATION
gLINE INTEGRATION WITH RECTANGULAR PATH AROUND POLE
zTH SEMICIRCULAR PATH AROUND POLE
xNOT INCLUDING THE POLE
gINTEGRAL AROUND A POINT OPERATOR
gQUATERNION INTEGRAL OPERATOR
gINTEGRAL WITH LEFTWARDS ARROW WITH HOOK
uTIMES SIGN
uINTERSECTION
uUNION
uOVERBAR
uUNDERBAR
gJOIN
gLARGE LEFT TRIANGLE OPERATOR
gZ NOTATION SCHEMA COMPOSITION
yPIPING
zROJECTION
gPLUS SIGN WITH SMALL CIRCLE ABOVE
vCIRCUMFLEX ACCENT ABOVE
vTILDE ABOVE
vDOT BELOW
vTILDE BELOW
vSUBSCRIPT TWO
vBLACK TRIANGLE
gMINUS SIGN WITH COMMA ABOVE
wDOT BELOW
wFALLING DOTS
wRISING DOTS
gPLUS SIGN IN LEFT HALF CIRCLE
tRIGHT HALF CIRCLE
gVECTOR OR CROSS PRODUCT
gMULTIPLICATION SIGN WITH DOT ABOVE
z WITH UNDERBAR
gSEMIDIRECT PRODUCT WITH BOTTOM CLOSED
hMASH PRODUCT
gMULTIPLICATION SIGN IN LEFT HALF CIRCLE
z IN RIGHT HALF CIRCLE
gCIRCLED MULTIPLICATION SIGN WITH CIRCUMFLEX ACCENT
gMULTIPLICATION SIGN IN DOUBLE CIRCLE
gCIRCLED DIVISION SIGN
gPLUS SIGN IN TRIANGLE
gMINUS SIGN IN TRIANGLE
hULTIPLICATION SIGN IN TRIANGLE
gINTERIOR PRODUCT
gRIGHTHAND INTERIOR PRODUCT
gZ NOTATION RELATIONAL COMPOSITION
gAMALGAMATION OR COPRODUCT
gINTERSECTION WITH DOT
gUNION WITH MINUS SIGN
rOVERBAR
gINTERSECTION WITH OVERBAR
yLOGICAL AND
gUNION WITH LOGICAL OR
mABOVE INTERSECTION
gINTERSECTION ABOVE UNION
gUNION ABOVE BAR ABOVE INTERSECTION
gINTERSECTION ABOVE BAR ABOVE UNION
gUNION BESIDE AND JOINED WITH UNION
gINTERSECTION BESIDE AND JOINED WITH INTERSECTION
gCLOSED UNION WITH SERIFS
nINTERSECTION WITH SERIFS
gDOUBLE SQUARE INTERSECTION
uUNION
gCLOSED UNION WITH SERIFS AND SMASH PRODUCT
gLOGICAL AND WITH DOT ABOVE
oOR WITH DOT ABOVE
gDOUBLE LOGICAL AND
vOR
gTWO INTERSECTING LOGICAL AND
zGICAL OR
gSLOPING LARGE OR
uAND
gLOGICAL OR OVERLAPPING LOGICAL AND
oAND WITH MIDDLE STEM
oOR WITH MIDDLE STEM
oAND WITH HORIZONTAL DASH
oOR WITH HORIZONTAL DASH
oAND WITH DOUBLE OVERBAR
xUNDERBAR
xDOUBLE UNDERBAR
gSMALL VEE WITH UNDERBAR
gLOGICAL OR WITH DOUBLE OVERBAR
zBLE UNDERBAR
gZ NOTATION DOMAIN ANTIRESTRICTION
rRANGE ANTIRESTRICTION
gEQUALS SIGN WITH DOT BELOW
gIDENTICAL WITH DOT ABOVE
gTRIPLE HORIZONTAL BAR WITH DOUBLE VERTICAL STROKE
zAR WITH TRIPLE VERTICAL STROKE
hILDE OPERATOR WITH DOT ABOVE
z RISING DOTS
gSIMILAR MINUS SIMILAR
gCONGRUENT WITH DOT ABOVE
gEQUALS WITH ASTERISK
gALMOST EQUAL TO WITH CIRCUMFLEX ACCENT
hPPROXIMATELY EQUAL OR EQUAL TO
gEQUALS SIGN ABOVE PLUS SIGN
gPLUS SIGN ABOVE EQUALS SIGN
gEQUALS SIGN ABOVE TILDE OPERATOR
gDOUBLE COLON EQUAL
gTWO CONSECUTIVE EQUALS SIGNS
hHREE CONSECUTIVE EQUALS SIGNS
gEQUALS SIGN WITH TWO DOTS ABOVE AND TWO DOTS BELOW
jIVALENT WITH FOUR DOTS ABOVE
gLESS-THAN WITH CIRCLE INSIDE
gGREATER-THAN WITH CIRCLE INSIDE
gLESS-THAN WITH QUESTION MARK ABOVE
gGREATER-THAN WITH QUESTION MARK ABOVE
gLESS-THAN OR SLANTED EQUAL TO
gGREATER-THAN OR SLANTED EQUAL TO
gLESS-THAN OR SLANTED EQUAL TO WITH DOT INSIDE
gGREATER-THAN OR SLANTED EQUAL TO WITH DOT INSIDE
gLESS-THAN OR SLANTED EQUAL TO WITH DOT ABOVE
gGREATER-THAN OR SLANTED EQUAL TO WITH DOT ABOVE
gLESS-THAN OR SLANTED EQUAL TO WITH DOT ABOVE RIGHT
gGREATER-THAN OR SLANTED EQUAL TO WITH DOT ABOVE LEFT
gLESS-THAN OR APPROXIMATE
gGREATER-THAN OR APPROXIMATE
gLESS-THAN AND SINGLE-LINE NOT EQUAL TO
gGREATER-THAN AND SINGLE-LINE NOT EQUAL TO
gLESS-THAN AND NOT APPROXIMATE
gGREATER-THAN AND NOT APPROXIMATE
gLESS-THAN ABOVE DOUBLE-LINE EQUAL ABOVE GREATER-THAN
gGREATER-THAN ABOVE DOUBLE-LINE EQUAL ABOVE LESS-THAN
gLESS-THAN ABOVE SIMILAR OR EQUAL
gGREATER-THAN ABOVE SIMILAR OR EQUAL
gLESS-THAN ABOVE SIMILAR ABOVE GREATER-THAN
gGREATER-THAN ABOVE SIMILAR ABOVE LESS-THAN
gLESS-THAN ABOVE GREATER-THAN ABOVE DOUBLE-LINE EQUAL
gGREATER-THAN ABOVE LESS-THAN ABOVE DOUBLE-LINE EQUAL
gLESS-THAN ABOVE SLANTED EQUAL ABOVE GREATER-THAN ABOVE SLANTED EQUAL
gGREATER-THAN ABOVE SLANTED EQUAL ABOVE LESS-THAN ABOVE SLANTED EQUAL
gSLANTED EQUAL TO OR LESS-THAN
z GREATER-THAN
z LESS-THAN WITH DOT INSIDE
z GREATER-THAN WITH DOT INSIDE
gDOUBLE-LINE EQUAL TO OR LESS-THAN
zO OR GREATER-THAN
sSLANTED EQUAL TO OR LESS-THAN
z EQUAL TO OR GREATER-THAN
gSIMILAR OR LESS-THAN
rGREATER-THAN
oABOVE LESS-THAN ABOVE EQUALS SIGN
uGREATER-THAN ABOVE EQUALS SIGN
gDOUBLE NESTED LESS-THAN
uGREATER-THAN
uLESS-THAN WITH UNDERBAR
gGREATER-THAN OVERLAPPING LESS-THAN
tBESIDE LESS-THAN
gLESS-THAN CLOSED BY CURVE
gGREATER-THAN CLOSED BY CURVE
gLESS-THAN CLOSED BY CURVE ABOVE SLANTED EQUAL
gGREATER-THAN CLOSED BY CURVE ABOVE SLANTED EQUAL
gSMALLER THAN
gLARGER THAN
gSMALLER THAN OR EQUAL TO
gLARGER THAN OR EQUAL TO
gEQUALS SIGN WITH BUMPY ABOVE
gPRECEDES ABOVE SINGLE-LINE EQUALS SIGN
gSUCCEEDS ABOVE SINGLE-LINE EQUALS SIGN
gPRECEDES ABOVE SINGLE-LINE NOT EQUAL TO
gSUCCEEDS ABOVE SINGLE-LINE NOT EQUAL TO
gPRECEDES ABOVE EQUALS SIGN
gSUCCEEDS ABOVE EQUALS SIGN
gPRECEDES ABOVE NOT EQUAL TO
gSUCCEEDS ABOVE NOT EQUAL TO
gPRECEDES ABOVE ALMOST EQUAL TO
gSUCCEEDS ABOVE ALMOST EQUAL TO
gPRECEDES ABOVE NOT ALMOST EQUAL TO
gSUCCEEDS ABOVE NOT ALMOST EQUAL TO
gDOUBLE PRECEDES
nSUCCEEDS
gSUBSET WITH DOT
iPERSET WITH DOT
iBSET WITH PLUS SIGN BELOW
iPERSET WITH PLUS SIGN BELOW
iBSET WITH MULTIPLICATION SIGN BELOW
iPERSET WITH MULTIPLICATION SIGN BELOW
iBSET OF OR EQUAL TO WITH DOT ABOVE
iPERSET OF OR EQUAL TO WITH DOT ABOVE
iBSET OF ABOVE EQUALS SIGN
iPERSET OF ABOVE EQUALS SIGN
iBSET OF ABOVE TILDE OPERATOR
iPERSET OF ABOVE TILDE OPERATOR
iBSET OF ABOVE ALMOST EQUAL TO
iPERSET OF ABOVE ALMOST EQUAL TO
iBSET OF ABOVE NOT EQUAL TO
iPERSET OF ABOVE NOT EQUAL TO
hQUARE LEFT OPEN BOX OPERATOR
nRIGHT OPEN BOX OPERATOR
gCLOSED SUBSET
pPERSET
pBSET OR EQUAL TO
pPERSET OR EQUAL TO
gSUBSET ABOVE SUPERSET
iPERSET ABOVE SUBSET
iBSET ABOVE SUBSET
iPERSET ABOVE SUPERSET
pBESIDE SUBSET
wAND JOINED BY DASH WITH SUBSET
gELEMENT OF OPENING DOWNWARDS
gPITCHFORK WITH TEE TOP
gTRANSVERSAL INTERSECTION
gFORKING
gNONFORKING
gSHORT LEFT TACK
mDOWN TACK
mUP TACK
gPERPENDICULAR WITH S
gVERTICAL BAR TRIPLE RIGHT TURNSTILE
gDOUBLE VERTICAL BAR LEFT TURNSTILE
gVERTICAL BAR DOUBLE LEFT TURNSTILE
gDOUBLE VERTICAL BAR DOUBLE LEFT TURNSTILE
gLONG DASH FROM LEFT MEMBER OF DOUBLE VERTICAL
gSHORT DOWN TACK WITH OVERBAR
mUP TACK WITH UNDERBAR
uABOVE SHORT DOWN TACK
gDOUBLE DOWN TACK
nUP TACK
nSTROKE NOT SIGN
gREVERSED DOUBLE STROKE NOT SIGN
gDOES NOT DIVIDE WITH REVERSED NEGATION SLASH
gVERTICAL LINE WITH CIRCLE ABOVE
zCIRCLE BELOW
gDOWN TACK WITH CIRCLE BELOW
gPARALLEL WITH HORIZONTAL STROKE
uTILDE OPERATOR
gTRIPLE VERTICAL BAR BINARY RELATION
z WITH HORIZONTAL STROKE
nCOLON OPERATOR
nNESTED LESS-THAN
uGREATER-THAN
gDOUBLE-LINE SLANTED LESS-THAN OR EQUAL TO
z GREATER-THAN OR EQUAL TO
gTRIPLE SOLIDUS BINARY RELATION
gLARGE TRIPLE VERTICAL BAR OPERATOR
gDOUBLE SOLIDUS OPERATOR
gWHITE VERTICAL BAR
gN-ARY WHITE VERTICAL BAR
hORTH EAST WHITE ARROW
mWEST WHITE ARROW
gSOUTH EAST WHITE ARROW
mWEST WHITE ARROW
gLEFT RIGHT WHITE ARROW
kWARDS BLACK ARROW
gUPWARDS BLACK ARROW
gDOWNWARDS BLACK ARROW
gNORTH EAST BLACK ARROW
mWEST BLACK ARROW
gSOUTH EAST BLACK ARROW
mWEST BLACK ARROW
gLEFT RIGHT BLACK ARROW
gUP DOWN BLACK ARROW
gRIGHTWARDS ARROW WITH TIP DOWNWARDS
zTH TIP UPWARDS
gLEFTWARDS ARROW WITH TIP DOWNWARDS
zH TIP UPWARDS
gSQUARE WITH TOP HALF BLACK
sBOTTOM HALF BLACK
sUPPER RIGHT DIAGONAL HALF BLACK
sLOWER LEFT DIAGONAL HALF BLACK
gDIAMOND WITH LEFT HALF BLACK
tRIGHT HALF BLACK
tTOP HALF BLACK
tBOTTOM HALF BLACK
hOTTED SQUARE
gBLACK LARGE SQUARE
gWHITE LARGE SQUARE
gBLACK VERY SMALL SQUARE
gWHITE VERY SMALL SQUARE
gBLACK PENTAGON
gWHITE PENTAGON
mHEXAGON
gBLACK HEXAGON
gHORIZONTAL BLACK HEXAGON
gBLACK LARGE CIRCLE
mMEDIUM DIAMOND
gWHITE MEDIUM DIAMOND
gBLACK MEDIUM LOZENGE
gWHITE MEDIUM LOZENGE
gBLACK SMALL DIAMOND
sLOZENGE
gWHITE SMALL LOZENGE
gBLACK HORIZONTAL ELLIPSE
gWHITE HORIZONTAL ELLIPSE
gBLACK VERTICAL ELLIPSE
gWHITE VERTICAL ELLIPSE
gLEFT ARROW WITH SMALL CIRCLE
gTHREE LEFTWARDS ARROWS
gLEFT ARROW WITH CIRCLED PLUS
hONG LEFTWARDS SQUIGGLE ARROW
hEFTWARDS TWO-HEADED ARROW WITH VERTICAL STROKE
zD ARROW WITH DOUBLE VERTICAL STROKE
zD ARROW FROM BAR
zD TRIPLE DASH ARROW
qARROW WITH DOTTED STEM
zH TAIL WITH VERTICAL STROKE
zH TAIL WITH DOUBLE VERTICAL STROKE
qTWO-HEADED ARROW WITH TAIL
zD ARROW WITH TAIL WITH VERTICAL STROKE
zD ARROW WITH TAIL WITH DOUBLE VERTICAL STROKE
qARROW THROUGH X
gWAVE ARROW POINTING DIRECTLY LEFT
gEQUALS SIGN ABOVE LEFTWARDS ARROW
gREVERSE TILDE OPERATOR ABOVE LEFTWARDS ARROW
gLEFTWARDS ARROW ABOVE REVERSE ALMOST EQUAL TO
gRIGHTWARDS ARROW THROUGH GREATER-THAN
zROUGH SUPERSET
gLEFTWARDS QUADRUPLE ARROW
gRIGHTWARDS QUADRUPLE ARROW
hEVERSE TILDE OPERATOR ABOVE RIGHTWARDS ARROW
hIGHTWARDS ARROW ABOVE REVERSE ALMOST EQUAL TO
gTILDE OPERATOR ABOVE LEFTWARDS ARROW
gLEFTWARDS ARROW ABOVE ALMOST EQUAL TO
zVE REVERSE TILDE OPERATOR
gRIGHTWARDS ARROW ABOVE REVERSE TILDE OPERATOR
gDOWNWARDS TRIANGLE-HEADED ZIGZAG ARROW
gSHORT SLANTED NORTH ARROW
mBACKSLANTED SOUTH ARROW
gWHITE MEDIUM STAR
gBLACK SMALL STAR
gWHITE SMALL STAR
gBLACK RIGHT-POINTING PENTAGON
gWHITE RIGHT-POINTING PENTAGON
gHEAVY LARGE CIRCLE
mOVAL WITH OVAL INSIDE
mCIRCLE WITH CIRCLE INSIDE
s
sD SALTIRE
gSLANTED NORTH ARROW WITH HOOKED HEAD
gBACKSLANTED SOUTH ARROW WITH HOOKED TAIL
gSLANTED NORTH ARROW WITH HORIZONTAL TAIL
gBACKSLANTED SOUTH ARROW WITH HORIZONTAL TAIL
hENT ARROW POINTING DOWNWARDS THEN NORTH EAST
gSHORT BENT ARROW POINTING DOWNWARDS THEN NORTH EAST
gLEFTWARDS TRIANGLE-HEADED ARROW
gUPWARDS TRIANGLE-HEADED ARROW
gRIGHTWARDS TRIANGLE-HEADED ARROW
gDOWNWARDS TRIANGLE-HEADED ARROW
gLEFT RIGHT TRIANGLE-HEADED ARROW
gUP DOWN TRIANGLE-HEADED ARROW
gNORTH WEST TRIANGLE-HEADED ARROW
mEAST TRIANGLE-HEADED ARROW
gSOUTH EAST TRIANGLE-HEADED ARROW
mWEST TRIANGLE-HEADED ARROW
gLEFTWARDS TRIANGLE-HEADED DASHED ARROW
gUPWARDS TRIANGLE-HEADED DASHED ARROW
gRIGHTWARDS TRIANGLE-HEADED DASHED ARROW
gDOWNWARDS TRIANGLE-HEADED DASHED ARROW
gCLOCKWISE TRIANGLE-HEADED OPEN CIRCLE ARROW
gANTICLOCKWISE TRIANGLE-HEADED OPEN CIRCLE ARROW
gLEFTWARDS TRIANGLE-HEADED ARROW TO BAR
gUPWARDS TRIANGLE-HEADED ARROW TO BAR
gRIGHTWARDS TRIANGLE-HEADED ARROW TO BAR
gDOWNWARDS TRIANGLE-HEADED ARROW TO BAR
3gNORTH WEST TRIANGLE-HEADED ARROW TO BAR
mEAST TRIANGLE-HEADED ARROW TO BAR
gSOUTH EAST TRIANGLE-HEADED ARROW TO BAR
mWEST TRIANGLE-HEADED ARROW TO BAR
gLEFTWARDS TRIANGLE-HEADED ARROW WITH DOUBLE HORIZONTAL STROKE
0zHEADED ARROW WITH DOUBLE VERTICAL STROKE
gUPWARDS TRIANGLE-HEADED ARROW WITH DOUBLE HORIZONTAL STROKE
gRIGHTWARDS TRIANGLE-HEADED ARROW WITH DOUBLE HORIZONTAL STROKE
0z-HEADED ARROW WITH DOUBLE VERTICAL STROKE
gDOWNWARDS TRIANGLE-HEADED ARROW WITH DOUBLE HORIZONTAL STROKE
gHORIZONTAL TAB KEY
gVERTICAL TAB KEY
gLEFTWARDS TRIANGLE-HEADED ARROW OVER RIGHTWARDS TRIANGLE-HEADED ARROW
gUPWARDS TRIANGLE-HEADED ARROW LEFTWARDS OF DOWNWARDS TRIANGLE-HEADED ARROW
gRIGHTWARDS TRIANGLE-HEADED ARROW OVER LEFTWARDS TRIANGLE-HEADED ARROW
gDOWNWARDS TRIANGLE-HEADED ARROW LEFTWARDS OF UPWARDS TRIANGLE-HEADED ARROW
gLEFTWARDS TRIANGLE-HEADED PAIRED ARROWS
gUPWARDS TRIANGLE-HEADED PAIRED ARROWS
gRIGHTWARDS TRIANGLE-HEADED PAIRED ARROWS
gDOWNWARDS TRIANGLE-HEADED PAIRED ARROWS
gLEFTWARDS BLACK CIRCLED WHITE ARROW
gUPWARDS BLACK CIRCLED WHITE ARROW
gRIGHTWARDS BLACK CIRCLED WHITE ARROW
gDOWNWARDS BLACK CIRCLED WHITE ARROW
gANTICLOCKWISE TRIANGLE-HEADED RIGHT U-SHAPED ARROW
zGLE-HEADED BOTTOM U-SHAPED ARROW
zGLE-HEADED LEFT U-SHAPED ARROW
zGLE-HEADED TOP U-SHAPED ARROW
gRETURN LEFT
nRIGHT
gNEWLINE LEFT
oRIGHT
gFOUR CORNER ARROWS CIRCLING ANTICLOCKWISE
gRIGHTWARDS BLACK ARROW
2gSYMBOL FOR TYPE A ELECTRONICS
gTHREE-D TOP-LIGHTED LEFTWARDS EQUILATERAL ARROWHEAD
oRIGHT-LIGHTED UPWARDS EQUILATERAL ARROWHEAD
oTOP-LIGHTED RIGHTWARDS EQUILATERAL ARROWHEAD
oLEFT-LIGHTED DOWNWARDS EQUILATERAL ARROWHEAD
gBLACK LEFTWARDS EQUILATERAL ARROWHEAD
mUPWARDS EQUILATERAL ARROWHEAD
mRIGHTWARDS EQUILATERAL ARROWHEAD
mDOWNWARDS EQUILATERAL ARROWHEAD
gDOWNWARDS TRIANGLE-HEADED ARROW WITH LONG TIP LEFTWARDS
zHEADED ARROW WITH LONG TIP RIGHTWARDS
gUPWARDS TRIANGLE-HEADED ARROW WITH LONG TIP LEFTWARDS
zADED ARROW WITH LONG TIP RIGHTWARDS
gLEFTWARDS TRIANGLE-HEADED ARROW WITH LONG TIP UPWARDS
gRIGHTWARDS TRIANGLE-HEADED ARROW WITH LONG TIP UPWARDS
gLEFTWARDS TRIANGLE-HEADED ARROW WITH LONG TIP DOWNWARDS
gRIGHTWARDS TRIANGLE-HEADED ARROW WITH LONG TIP DOWNWARDS
gBLACK CURVED DOWNWARDS AND LEFTWARDS ARROW
zRDS AND RIGHTWARDS ARROW
tUPWARDS AND LEFTWARDS ARROW
zS AND RIGHTWARDS ARROW
tLEFTWARDS AND UPWARDS ARROW
tRIGHTWARDS AND UPWARDS ARROW
tLEFTWARDS AND DOWNWARDS ARROW
tRIGHTWARDS AND DOWNWARDS ARROW
gRIBBON ARROW DOWN LEFT
yRIGHT
tUP LEFT
wRIGHT
tLEFT UP
tRIGHT UP
tLEFT DOWN
tRIGHT DOWN
gUPWARDS WHITE ARROW FROM BAR WITH HORIZONTAL BAR
i ARROWHEAD IN A RECTANGLE BOX
gOVERLAPPING WHITE SQUARES
yAND BLACK SQUARES
sBLACK SQUARES
gBALLOT BOX WITH LIGHT X
gCIRCLED X
oBOLD X
gBLACK SQUARE CENTRED
mDIAMOND CENTRED
gTURNED BLACK PENTAGON
gHORIZONTAL BLACK OCTAGON
gBLACK OCTAGON
mMEDIUM UP-POINTING TRIANGLE CENTRED
tDOWN-POINTING TRIANGLE CENTRED
tLEFT-POINTING TRIANGLE CENTRED
tRIGHT-POINTING TRIANGLE CENTRED
gNEPTUNE FORM TWO
gTOP HALF BLACK CIRCLE
gBOTTOM HALF BLACK CIRCLE
gLIGHT FOUR POINTED BLACK CUSP
gROTATED LIGHT FOUR POINTED BLACK CUSP
gWHITE FOUR POINTED CUSP
gROTATED WHITE FOUR POINTED CUSP
gSQUARE POSITION INDICATOR
gUNCERTAINTY SIGN
gGROUP MARK
gPLUTO FORM TWO
sHREE
rFOUR
sIVE
gTRANSPLUTO
gPROSERPINA
gASTRAEA
gHYGIEA
gPHOLUS
gNESSUS
gWHITE MOON SELENA
gBLACK DIAMOND ON CROSS
gTRUE LIGHT MOON ARTA
gCUPIDO
gHADES
gZEUS
gKRONOS
gAPOLLON
hDMETOS
gVULCANUS
gPOSEIDON
gLEFT HALF BLACK STAR
gRIGHT HALF BLACK STAR
gSTAR WITH LEFT HALF BLACK
qRIGHT HALF BLACK
gLEFTWARDS TWO-HEADED ARROW WITH TRIANGLE ARROWHEADS
gUPWARDS TWO-HEADED ARROW WITH TRIANGLE ARROWHEADS
gRIGHTWARDS TWO-HEADED ARROW WITH TRIANGLE ARROWHEADS
gDOWNWARDS TWO-HEADED ARROW WITH TRIANGLE ARROWHEADS
gERIS FORM ONE
qTWO
gSEDNA
gRUSSIAN ASTROLOGICAL SYMBOL VIGINTILE
zL SYMBOL NOVILE
zL SYMBOL QUINTILE
zL SYMBOL BINOVILE
zL SYMBOL SENTAGON
zL SYMBOL TREDECILE
gEQUALS SIGN WITH INFINITY BELOW
gUNITED SYMBOL
gSEPARATED SYMBOL
gDOUBLED SYMBOL
gPASSED SYMBOL
gREVERSED RIGHT ANGLE
gHELLSCHREIBER PAUSE SYMBOL
gGLAGOLITIC CAPITAL LETTER AZU
zLETTER BUKY
zLETTER VEDE
zLETTER GLAGOLI
zLETTER DOBRO
zLETTER YESTU
zLETTER ZHIVETE
zLETTER DZELO
zLETTER ZEMLJA
zLETTER IZHE
zLETTER INITIAL IZHE
zLETTER I
zLETTER DJERVI
zLETTER KAKO
zLETTER LJUDIJE
zLETTER MYSLITE
zLETTER NASHI
zLETTER ONU
zLETTER POKOJI
zLETTER RITSI
zLETTER SLOVO
zLETTER TVRIDO
zLETTER UKU
zLETTER FRITU
zLETTER HERU
zLETTER OTU
zLETTER PE
zLETTER SHTA
zLETTER TSI
zLETTER CHRIVI
zLETTER SHA
zLETTER YERU
zLETTER YERI
zLETTER YATI
zLETTER SPIDERY HA
zLETTER YU
zLETTER SMALL YUS
zLETTER SMALL YUS WITH TAIL
zLETTER YO
zLETTER IOTATED SMALL YUS
zLETTER BIG YUS
zLETTER IOTATED BIG YUS
zLETTER FITA
zLETTER IZHITSA
zLETTER SHTAPIC
zLETTER TROKUTASTI A
zLETTER LATINATE MYSLITE
zLETTER CAUDATE CHRIVI
rSMALL LETTER AZU
zTTER BUKY
zTTER VEDE
zTTER GLAGOLI
zTTER DOBRO
zTTER YESTU
zTTER ZHIVETE
zTTER DZELO
zTTER ZEMLJA
zTTER IZHE
zTTER INITIAL IZHE
zTTER I
zTTER DJERVI
zTTER KAKO
zTTER LJUDIJE
zTTER MYSLITE
zTTER NASHI
zTTER ONU
zTTER POKOJI
zTTER RITSI
zTTER SLOVO
zTTER TVRIDO
zTTER UKU
zTTER FRITU
zTTER HERU
zTTER OTU
zTTER PE
zTTER SHTA
zTTER TSI
zTTER CHRIVI
zTTER SHA
zTTER YERU
zTTER YERI
zTTER YATI
zTTER SPIDERY HA
zTTER YU
zTTER SMALL YUS
zTTER SMALL YUS WITH TAIL
zTTER YO
zTTER IOTATED SMALL YUS
zTTER BIG YUS
zTTER IOTATED BIG YUS
zTTER FITA
zTTER IZHITSA
zTTER SHTAPIC
zTTER TROKUTASTI A
zTTER LATINATE MYSLITE
zTTER CAUDATE CHRIVI
gLATIN CAPITAL LETTER L WITH DOUBLE BAR
mSMALL LETTER L WITH DOUBLE BAR
mCAPITAL LETTER L WITH MIDDLE TILDE
zR P WITH STROKE
zR R WITH TAIL
mSMALL LETTER A WITH STROKE
zT WITH DIAGONAL STROKE
mCAPITAL LETTER H WITH DESCENDER
mSMALL LETTER H WITH DESCENDER
mCAPITAL LETTER K WITH DESCENDER
mSMALL LETTER K WITH DESCENDER
mCAPITAL LETTER Z WITH DESCENDER
mSMALL LETTER Z WITH DESCENDER
mCAPITAL LETTER ALPHA
zR M WITH HOOK
zR TURNED A
zR TURNED ALPHA
mSMALL LETTER V WITH RIGHT HOOK
mCAPITAL LETTER W WITH HOOK
mSMALL LETTER W WITH HOOK
zV WITH CURL
mCAPITAL LETTER HALF H
mSMALL LETTER HALF H
zTAILLESS PHI
zE WITH NOTCH
zTURNED R WITH TAIL
zO WITH LOW RING INSIDE
mLETTER SMALL CAPITAL TURNED E
mSUBSCRIPT SMALL LETTER J
gMODIFIER LETTER CAPITAL V
gLATIN CAPITAL LETTER S WITH SWASH TAIL
zR Z WITH SWASH TAIL
gCOPTIC CAPITAL LETTER ALFA
nSMALL LETTER ALFA
nCAPITAL LETTER VIDA
nSMALL LETTER VIDA
nCAPITAL LETTER GAMMA
nSMALL LETTER GAMMA
nCAPITAL LETTER DALDA
nSMALL LETTER DALDA
nCAPITAL LETTER EIE
nSMALL LETTER EIE
nCAPITAL LETTER SOU
nSMALL LETTER SOU
nCAPITAL LETTER ZATA
nSMALL LETTER ZATA
nCAPITAL LETTER HATE
nSMALL LETTER HATE
nCAPITAL LETTER THETHE
nSMALL LETTER THETHE
nCAPITAL LETTER IAUDA
nSMALL LETTER IAUDA
nCAPITAL LETTER KAPA
nSMALL LETTER KAPA
nCAPITAL LETTER LAULA
nSMALL LETTER LAULA
nCAPITAL LETTER MI
nSMALL LETTER MI
nCAPITAL LETTER NI
nSMALL LETTER NI
nCAPITAL LETTER KSI
nSMALL LETTER KSI
nCAPITAL LETTER O
nSMALL LETTER O
nCAPITAL LETTER PI
nSMALL LETTER PI
nCAPITAL LETTER RO
nSMALL LETTER RO
nCAPITAL LETTER SIMA
nSMALL LETTER SIMA
nCAPITAL LETTER TAU
nSMALL LETTER TAU
nCAPITAL LETTER UA
nSMALL LETTER UA
nCAPITAL LETTER FI
nSMALL LETTER FI
nCAPITAL LETTER KHI
nSMALL LETTER KHI
nCAPITAL LETTER PSI
nSMALL LETTER PSI
nCAPITAL LETTER OOU
nSMALL LETTER OOU
nCAPITAL LETTER DIALECT-P ALEF
nSMALL LETTER DIALECT-P ALEF
nCAPITAL LETTER OLD COPTIC AIN
nSMALL LETTER OLD COPTIC AIN
nCAPITAL LETTER CRYPTOGRAMMIC EIE
nSMALL LETTER CRYPTOGRAMMIC EIE
nCAPITAL LETTER DIALECT-P KAPA
nSMALL LETTER DIALECT-P KAPA
nCAPITAL LETTER DIALECT-P NI
nSMALL LETTER DIALECT-P NI
nCAPITAL LETTER CRYPTOGRAMMIC NI
nSMALL LETTER CRYPTOGRAMMIC NI
nCAPITAL LETTER OLD COPTIC OOU
nSMALL LETTER OLD COPTIC OOU
nCAPITAL LETTER SAMPI
nSMALL LETTER SAMPI
nCAPITAL LETTER CROSSED SHEI
nSMALL LETTER CROSSED SHEI
nCAPITAL LETTER OLD COPTIC SHEI
nSMALL LETTER OLD COPTIC SHEI
nCAPITAL LETTER OLD COPTIC ESH
nSMALL LETTER OLD COPTIC ESH
nCAPITAL LETTER AKHMIMIC KHEI
nSMALL LETTER AKHMIMIC KHEI
nCAPITAL LETTER DIALECT-P HORI
nSMALL LETTER DIALECT-P HORI
nCAPITAL LETTER OLD COPTIC HORI
nSMALL LETTER OLD COPTIC HORI
nCAPITAL LETTER OLD COPTIC HA
nSMALL LETTER OLD COPTIC HA
nCAPITAL LETTER L-SHAPED HA
nSMALL LETTER L-SHAPED HA
nCAPITAL LETTER OLD COPTIC HEI
nSMALL LETTER OLD COPTIC HEI
nCAPITAL LETTER OLD COPTIC HAT
nSMALL LETTER OLD COPTIC HAT
nCAPITAL LETTER OLD COPTIC GANGIA
nSMALL LETTER OLD COPTIC GANGIA
nCAPITAL LETTER OLD COPTIC DJA
nSMALL LETTER OLD COPTIC DJA
nCAPITAL LETTER OLD COPTIC SHIMA
nSMALL LETTER OLD COPTIC SHIMA
nCAPITAL LETTER OLD NUBIAN SHIMA
nSMALL LETTER OLD NUBIAN SHIMA
nCAPITAL LETTER OLD NUBIAN NGI
nSMALL LETTER OLD NUBIAN NGI
nCAPITAL LETTER OLD NUBIAN NYI
nSMALL LETTER OLD NUBIAN NYI
nCAPITAL LETTER OLD NUBIAN WAU
nSMALL LETTER OLD NUBIAN WAU
oYMBOL KAI
uMI RO
uPI RO
uSTAUROS
uTAU RO
uKHI RO
uSHIMA SIMA
nCAPITAL LETTER CRYPTOGRAMMIC SHEI
nSMALL LETTER CRYPTOGRAMMIC SHEI
nCAPITAL LETTER CRYPTOGRAMMIC GANGIA
nSMALL LETTER CRYPTOGRAMMIC GANGIA
nCOMBINING NI ABOVE
xSPIRITUS ASPER
zIRITUS LENIS
oAPITAL LETTER BOHAIRIC KHEI
nSMALL LETTER BOHAIRIC KHEI
6nOLD NUBIAN FULL STOP
yDIRECT QUESTION MARK
yINDIRECT QUESTION MARK
yVERSE DIVIDER
nFRACTION ONE HALF
oULL STOP
nMORPHOLOGICAL DIVIDER
gGEORGIAN SMALL LETTER AN
zER BAN
zER GAN
zER DON
zER EN
zER VIN
zER ZEN
zER TAN
zER IN
zER KAN
zER LAS
zER MAN
zER NAR
zER ON
zER PAR
zER ZHAR
zER RAE
zER SAN
zER TAR
zER UN
zER PHAR
zER KHAR
zER GHAN
zER QAR
zER SHIN
zER CHIN
zER CAN
zER JIL
zER CIL
zER CHAR
zER XAN
zER JHAN
zER HAE
zER HE
zER HIE
zER WE
zER HAR
zER HOE
2zER YN
6zER AEN
3gTIFINAGH LETTER YA
yB
zH
yG
zHH
wBERBER ACADEMY YAJ
wYAJ
yD
zH
zD
zDH
xEY
xAF
yK
wTUAREG YAK
wYAKHH
yH
wBERBER ACADEMY YAH
wTUAREG YAH
wYAHH
yA
yKH
wTUAREG YAKH
wYAQ
wTUAREG YAQ
wYI
xAZH
wAHAGGAR YAZH
wTUAREG YAZH
wYAL
yM
yN
wTUAREG YAGN
zREG YANG
wYAP
xU
xAR
zR
yGH
wTUAREG YAGH
wAYER YAGH
wYAS
zS
zH
yT
zH
yCH
yTT
yV
yW
yY
yZ
wTAWELLEMET YAZ
wYAZZ
xE
xO
8pMODIFIER LETTER LABIALIZATION MARK
pSEPARATOR MARK
fpCONSONANT JOINER
gETHIOPIC SYLLABLE LOA
yMOA
yROA
ySOA
zHOA
yBOA
yTOA
yCOA
yNOA
zYOA
yGLOTTAL OA
yZOA
yDOA
zDOA
yJOA
yTHOA
yCHOA
yPHOA
zOA
yGGWA
zGWI
zGWEE
zGWE
aySSA
zSU
zSI
zSAA
zSEE
zSE
zSO
2yCCA
zCU
zCI
zCAA
zCEE
zCE
zCO
2yZZA
zZU
zZI
zZAA
zZEE
zZE
zZO
2yCCHA
zCHU
zCHI
zCHAA
zCHEE
zCHE
zCHO
2yQYA
zYU
zYI
zYAA
zYEE
zYE
zYO
2yKYA
zYU
zYI
zYAA
zYEE
zYE
zYO
2yXYA
zYU
zYI
zYAA
zYEE
zYE
zYO
2yGYA
zYU
zYI
zYAA
zYEE
zYE
zYO
2gCOMBINING CYRILLIC LETTER BE
zLETTER VE
zLETTER GHE
zLETTER DE
zLETTER ZHE
zLETTER ZE
zLETTER KA
zLETTER EL
zLETTER EM
zLETTER EN
zLETTER O
zLETTER PE
zLETTER ER
zLETTER ES
zLETTER TE
zLETTER HA
zLETTER TSE
zLETTER CHE
zLETTER SHA
zLETTER SHCHA
zLETTER FITA
zLETTER ES-TE
zLETTER A
zLETTER IE
zLETTER DJERV
zLETTER MONOGRAPH UK
zLETTER YAT
zLETTER YU
zLETTER IOTIFIED A
zLETTER LITTLE YUS
zLETTER BIG YUS
zLETTER IOTIFIED BIG YUS
gRIGHT ANGLE SUBSTITUTION MARKER
sDOTTED SUBSTITUTION MARKER
gLEFT SUBSTITUTION BRACKET
gRIGHT SUBSTITUTION BRACKET
gLEFT DOTTED SUBSTITUTION BRACKET
gRIGHT DOTTED SUBSTITUTION BRACKET
hAISED INTERPOLATION MARKER
nDOTTED INTERPOLATION MARKER
gDOTTED TRANSPOSITION MARKER
gLEFT TRANSPOSITION BRACKET
gRIGHT TRANSPOSITION BRACKET
hAISED SQUARE
gLEFT RAISED OMISSION BRACKET
gRIGHT RAISED OMISSION BRACKET
gEDITORIAL CORONIS
gPARAGRAPHOS
gFORKED PARAGRAPHOS
gREVERSED FORKED PARAGRAPHOS
gHYPODIASTOLE
gDOTTED OBELOS
iWNWARDS ANCORA
gUPWARDS ANCORA
gDOTTED RIGHT-POINTING ANGLE
iUBLE OBLIQUE HYPHEN
gINVERTED INTERROBANG
gPALM BRANCH
gHYPHEN WITH DIAERESIS
gTILDE WITH RING ABOVE
gLEFT LOW PARAPHRASE BRACKET
gRIGHT LOW PARAPHRASE BRACKET
gTILDE WITH DOT ABOVE
vBELOW
gLEFT VERTICAL BAR WITH QUILL
gRIGHT VERTICAL BAR WITH QUILL
gTOP LEFT HALF BRACKET
kRIGHT HALF BRACKET
gBOTTOM LEFT HALF BRACKET
nRIGHT HALF BRACKET
gLEFT SIDEWAYS U BRACKET
gRIGHT SIDEWAYS U BRACKET
gLEFT DOUBLE PARENTHESIS
gRIGHT DOUBLE PARENTHESIS
gTWO DOTS OVER ONE DOT PUNCTUATION
gONE DOT OVER TWO DOTS PUNCTUATION
gSQUARED FOUR DOT PUNCTUATION
gFIVE DOT MARK
gREVERSED QUESTION MARK
gVERTICAL TILDE
gRING POINT
gWORD SEPARATOR MIDDLE DOT
gTURNED COMMA
gRAISED DOT
nCOMMA
gTURNED SEMICOLON
gDAGGER WITH LEFT GUARD
sRIGHT GUARD
gTURNED DAGGER
hOP HALF SECTION SIGN
hWO-EM DASH
hHREE-EM DASH
gSTENOGRAPHIC FULL STOP
gVERTICAL SIX DOTS
gWIGGLY VERTICAL LINE
gCAPITULUM
gDOUBLE HYPHEN
gREVERSED COMMA
gDOUBLE LOW-REVERSED-9 QUOTATION MARK
hASH WITH LEFT UPTURN
hOUBLE SUSPENSION MARK
gINVERTED LOW KAVYKA
z WITH KAVYKA ABOVE
gLOW KAVYKA
q WITH DOT
gDOUBLE STACKED COMMA
iTTED SOLIDUS
gTRIPLE DAGGER
gMEDIEVAL COMMA
gPARAGRAPHUS MARK
hUNCTUS ELEVATUS MARK
gCORNISH VERSE DIVIDER
hROSS PATTY WITH RIGHT CROSSBAR
xLEFT CROSSBAR
gTIRONIAN SIGN CAPITAL ET
gMEDIEVAL EXCLAMATION MARK
pQUESTION MARK
gLEFT SQUARE BRACKET WITH STROKE
gRIGHT SQUARE BRACKET WITH STROKE
gLEFT SQUARE BRACKET WITH DOUBLE STROKE
gRIGHT SQUARE BRACKET WITH DOUBLE STROKE
gTOP HALF LEFT PARENTHESIS
pRIGHT PARENTHESIS
gBOTTOM HALF LEFT PARENTHESIS
sRIGHT PARENTHESIS
gOBLIQUE HYPHEN
23gCJK RADICAL REPEAT
sCLIFF
sSECOND ONE
zTWO
zTHREE
sPERSON
sBOX
sTABLE
sKNIFE ONE
yTWO
sDIVINATION
sSEAL
tMALL ONE
yTWO
sLAME ONE
xTWO
yHREE
xFOUR
sSNAKE
sTHREAD
sSNOUT ONE
yTWO
sHEART ONE
yTWO
tAND
sRAP
2sCHOKE
sSUN
sMOON
sDEATH
sMOTHER
sCIVILIAN
sWATER ONE
yTWO
sFIRE
sPAW ONE
wTWO
sSIMPLIFIED HALF TREE TRUNK
sCOW
sDOG
sJADE
sBOLT OF CLOTH
sEYE
sSPIRIT ONE
zTWO
sBAMBOO
sSILK
sC-SIMPLIFIED SILK
sNET ONE
wTWO
xHREE
wFOUR
sMESH
sSHEEP
sRAM
sEWE
sOLD
sBRUSH ONE
yTWO
sMEAT
tORTAR
sGRASS ONE
yTWO
zHREE
sTIGER
sCLOTHES
sWEST ONE
xTWO
sC-SIMPLIFIED SEE
sSIMPLIFIED HORN
sHORN
sC-SIMPLIFIED SPEECH
zIFIED SHELL
sFOOT
sC-SIMPLIFIED CART
sSIMPLIFIED WALK
sWALK ONE
xTWO
sCITY
t-SIMPLIFIED GOLD
sLONG ONE
xTWO
sC-SIMPLIFIED LONG
zIFIED GATE
sMOUND ONE
yTWO
sRAIN
sBLUE
sC-SIMPLIFIED TANNED LEATHER
zIFIED LEAF
zIFIED WIND
zIFIED FLY
sEAT ONE
wTWO
xHREE
sC-SIMPLIFIED EAT
sHEAD
sC-SIMPLIFIED HORSE
sBONE
sGHOST
sC-SIMPLIFIED FISH
zIFIED BIRD
zIFIED SALT
sSIMPLIFIED WHEAT
zIED YELLOW
sC-SIMPLIFIED FROG
sJ-SIMPLIFIED EVEN
sC-SIMPLIFIED EVEN
sJ-SIMPLIFIED TOOTH
sC-SIMPLIFIED TOOTH
sJ-SIMPLIFIED DRAGON
sC-SIMPLIFIED DRAGON
sTURTLE
sJ-SIMPLIFIED TURTLE
sC-SIMPLIFIED TURTLE
dgKANGXI RADICAL ONE
vLINE
vDOT
vSLASH
wECOND
vHOOK
vTWO
vLID
vMAN
vLEGS
vENTER
wIGHT
vDOWN BOX
vCOVER
vICE
vTABLE
vOPEN BOX
vKNIFE
vPOWER
vWRAP
vSPOON
vRIGHT OPEN BOX
vHIDING ENCLOSURE
vTEN
vDIVINATION
vSEAL
vCLIFF
vPRIVATE
vAGAIN
vMOUTH
vENCLOSURE
wARTH
vSCHOLAR
vGO
x SLOWLY
vEVENING
vBIG
vWOMAN
vCHILD
vROOF
vINCH
vSMALL
vLAME
vCORPSE
vSPROUT
vMOUNTAIN
vRIVER
vWORK
vONESELF
vTURBAN
vDRY
vSHORT THREAD
vDOTTED CLIFF
vLONG STRIDE
vTWO HANDS
vSHOOT
vBOW
vSNOUT
vBRISTLE
vSTEP
vHEART
wALBERD
vDOOR
vHAND
vBRANCH
vRAP
vSCRIPT
vDIPPER
vAXE
vSQUARE
vNOT
vSUN
wAY
vMOON
vTREE
vLACK
vSTOP
vDEATH
vWEAPON
vDO NOT
vCOMPARE
vFUR
vCLAN
vSTEAM
vWATER
vFIRE
vCLAW
vFATHER
vDOUBLE X
vHALF TREE TRUNK
vSLICE
vFANG
vCOW
vDOG
vPROFOUND
vJADE
vMELON
vTILE
vSWEET
vLIFE
vUSE
vFIELD
vBOLT OF CLOTH
vSICKNESS
vDOTTED TENT
vWHITE
vSKIN
vDISH
vEYE
vSPEAR
vARROW
vSTONE
wPIRIT
vTRACK
vGRAIN
vCAVE
vSTAND
vBAMBOO
vRICE
vSILK
vJAR
vNET
vSHEEP
vFEATHER
vOLD
vAND
vPLOW
vEAR
vBRUSH
vMEAT
wINISTER
vSELF
vARRIVE
vMORTAR
vTONGUE
vOPPOSE
vBOAT
vSTOPPING
vCOLOR
vGRASS
vTIGER
vINSECT
vBLOOD
vWALK ENCLOSURE
vCLOTHES
vWEST
vSEE
vHORN
vSPEECH
vVALLEY
vBEAN
vPIG
vBADGER
vSHELL
vRED
wUN
vFOOT
vBODY
vCART
vBITTER
vMORNING
vWALK
vCITY
vWINE
vDISTINGUISH
vVILLAGE
vGOLD
vLONG
vGATE
vMOUND
vSLAVE
wHORT TAILED BIRD
vRAIN
vBLUE
vWRONG
vFACE
vLEATHER
vTANNED LEATHER
vLEEK
vSOUND
vLEAF
vWIND
vFLY
vEAT
vHEAD
vFRAGRANT
vHORSE
vBONE
vTALL
vHAIR
vFIGHT
vSACRIFICIAL WINE
vCAULDRON
vGHOST
vFISH
vBIRD
vSALT
vDEER
vWHEAT
vHEMP
vYELLOW
vMILLET
vBLACK
vEMBROIDERY
vFROG
vTRIPOD
vDRUM
vRAT
vNOSE
vEVEN
vTOOTH
vDRAGON
vTURTLE
vFLUTE
1bgIDEOGRAPHIC DESCRIPTION CHARACTER LEFT TO RIGHT
zTION CHARACTER ABOVE TO BELOW
zTION CHARACTER LEFT TO MIDDLE AND RIGHT
zTION CHARACTER ABOVE TO MIDDLE AND BELOW
zTION CHARACTER FULL SURROUND
zTION CHARACTER SURROUND FROM ABOVE
zTION CHARACTER SURROUND FROM BELOW
zTION CHARACTER SURROUND FROM LEFT
zTION CHARACTER SURROUND FROM UPPER LEFT
zTION CHARACTER SURROUND FROM UPPER RIGHT
zTION CHARACTER SURROUND FROM LOWER LEFT
zTION CHARACTER OVERLAID
5sSPACE
sCOMMA
sFULL STOP
gDITTO MARK
gJAPANESE INDUSTRIAL STANDARD SYMBOL
gIDEOGRAPHIC ITERATION MARK
sCLOSING MARK
sNUMBER ZERO
gLEFT ANGLE BRACKET
gRIGHT ANGLE BRACKET
gLEFT DOUBLE ANGLE BRACKET
gRIGHT DOUBLE ANGLE BRACKET
gLEFT CORNER BRACKET
gRIGHT CORNER BRACKET
gLEFT WHITE CORNER BRACKET
gRIGHT WHITE CORNER BRACKET
gLEFT BLACK LENTICULAR BRACKET
gRIGHT BLACK LENTICULAR BRACKET
gPOSTAL MARK
gGETA MARK
gLEFT TORTOISE SHELL BRACKET
gRIGHT TORTOISE SHELL BRACKET
gLEFT WHITE LENTICULAR BRACKET
gRIGHT WHITE LENTICULAR BRACKET
gLEFT WHITE TORTOISE SHELL BRACKET
gRIGHT WHITE TORTOISE SHELL BRACKET
gLEFT WHITE SQUARE BRACKET
gRIGHT WHITE SQUARE BRACKET
gWAVE DASH
gREVERSED DOUBLE PRIME QUOTATION MARK
gDOUBLE PRIME QUOTATION MARK
gLOW DOUBLE PRIME QUOTATION MARK
gPOSTAL MARK FACE
gHANGZHOU NUMERAL ONE
xTWO
yHREE
xFOUR
yIVE
xSIX
yEVEN
xEIGHT
xNINE
gIDEOGRAPHIC LEVEL TONE MARK
sRISING TONE MARK
sDEPARTING TONE MARK
sENTERING TONE MARK
gHANGUL SINGLE DOT TONE MARK
nDOUBLE DOT TONE MARK
gWAVY DASH
gVERTICAL KANA REPEAT MARK
zT WITH VOICED SOUND MARK
zT MARK UPPER HALF
zT WITH VOICED SOUND MARK UPPER HALF
zT MARK LOWER HALF
gCIRCLED POSTAL MARK
gIDEOGRAPHIC TELEGRAPH LINE FEED SEPARATOR SYMBOL
gHANGZHOU NUMERAL TEN
yWENTY
yHIRTY
gVERTICAL IDEOGRAPHIC ITERATION MARK
gMASU MARK
gPART ALTERNATION MARK
gIDEOGRAPHIC VARIATION INDICATOR
sHALF FILL SPACE
2gHIRAGANA LETTER SMALL A
wA
wSMALL I
wI
wSMALL U
wU
wSMALL E
wE
wSMALL O
wO
wKA
wGA
wKI
wGI
wKU
wGU
wKE
wGE
wKO
wGO
wSA
wZA
wSI
wZI
wSU
wZU
wSE
wZE
wSO
wZO
wTA
wDA
wTI
wDI
wSMALL TU
wTU
wDU
wTE
wDE
wTO
wDO
wNA
xI
xU
xE
xO
wHA
wBA
wPA
wHI
wBI
wPI
wHU
wBU
wPU
wHE
wBE
wPE
wHO
wBO
wPO
wMA
xI
xU
xE
xO
wSMALL YA
wYA
wSMALL YU
wYU
wSMALL YO
wYO
wRA
xI
xU
xE
xO
wSMALL WA
wWA
xI
xE
xO
wN
wVU
wSMALL KA
zLL KE
3gCOMBINING KATAKANA-HIRAGANA VOICED SOUND MARK
zHIRAGANA SEMI-VOICED SOUND MARK
gKATAKANA-HIRAGANA VOICED SOUND MARK
ySEMI-VOICED SOUND MARK
gHIRAGANA ITERATION MARK
pVOICED ITERATION MARK
pDIGRAPH YORI
gKATAKANA-HIRAGANA DOUBLE HYPHEN
o LETTER SMALL A
wA
wSMALL I
wI
wSMALL U
wU
wSMALL E
wE
wSMALL O
wO
wKA
wGA
wKI
wGI
wKU
wGU
wKE
wGE
wKO
wGO
wSA
wZA
wSI
wZI
wSU
wZU
wSE
wZE
wSO
wZO
wTA
wDA
wTI
wDI
wSMALL TU
wTU
wDU
wTE
wDE
wTO
wDO
wNA
xI
xU
xE
xO
wHA
wBA
wPA
wHI
wBI
wPI
wHU
wBU
wPU
wHE
wBE
wPE
wHO
wBO
wPO
wMA
xI
xU
xE
xO
wSMALL YA
wYA
wSMALL YU
wYU
wSMALL YO
wYO
wRA
xI
xU
xE
xO
wSMALL WA
wWA
xI
xE
xO
wN
wVU
wSMALL KA
zLL KE
wVA
xI
xE
xO
pMIDDLE DOT
o-HIRAGANA PROLONGED SOUND MARK
o ITERATION MARK
pVOICED ITERATION MARK
pDIGRAPH KOTO
6gBOPOMOFO LETTER B
wP
wM
wF
wD
wT
wN
wL
wG
wK
wH
wJ
wQ
wX
wZH
wCH
wSH
wR
wZ
wC
wS
wA
wO
wE
xH
wAI
wEI
wAU
wOU
wAN
wEN
wANG
wENG
xR
wI
wU
wIU
wV
wNG
wGN
wIH
wO WITH DOT ABOVE
wNN
2gHANGUL LETTER KIYEOK
uSSANGKIYEOK
uKIYEOK-SIOS
uNIEUN
z-CIEUC
z-HIEUH
uTIKEUT
uSSANGTIKEUT
uRIEUL
z-KIYEOK
z-MIEUM
z-PIEUP
z-SIOS
z-THIEUTH
z-PHIEUPH
z-HIEUH
uMIEUM
uPIEUP
uSSANGPIEUP
uPIEUP-SIOS
uSIOS
vSANGSIOS
uIEUNG
uCIEUC
uSSANGCIEUC
uCHIEUCH
uKHIEUKH
uTHIEUTH
uPHIEUPH
uHIEUH
uA
vE
uYA
wE
uEO
v
uYEO
w
uO
uWA
wE
uOE
uYO
uU
uWEO
w
vI
uYU
uEU
uYI
uI
nFILLER
nLETTER SSANGNIEUN
uNIEUN-TIKEUT
z-SIOS
z-PANSIOS
uRIEUL-KIYEOK-SIOS
z-TIKEUT
z-PIEUP-SIOS
z-PANSIOS
z-YEORINHIEUH
uMIEUM-PIEUP
z-SIOS
z-PANSIOS
uKAPYEOUNMIEUM
uPIEUP-KIYEOK
z-TIKEUT
z-SIOS-KIYEOK
z-SIOS-TIKEUT
z-CIEUC
z-THIEUTH
uKAPYEOUNPIEUP
zOUNSSANGPIEUP
uSIOS-KIYEOK
zNIEUN
zTIKEUT
zPIEUP
zCIEUC
uPANSIOS
uSSANGIEUNG
uYESIEUNG
zUNG-SIOS
zUNG-PANSIOS
uKAPYEOUNPHIEUPH
uSSANGHIEUH
uYEORINHIEUH
vO-YA
zE
xI
vU-YEO
z
xI
uARAEA
zE
2gIDEOGRAPHIC ANNOTATION LINKING MARK
zION REVERSE MARK
zION ONE MARK
zION TWO MARK
zION THREE MARK
zION FOUR MARK
zION TOP MARK
zION MIDDLE MARK
zION BOTTOM MARK
zION FIRST MARK
zION SECOND MARK
zION THIRD MARK
zION FOURTH MARK
zION HEAVEN MARK
zION EARTH MARK
zION MAN MARK
gBOPOMOFO LETTER BU
wZI
wJI
wGU
wEE
xNN
wOO
xNN
wIR
wANN
wINN
wUNN
wIM
wNGG
wAINN
xUNN
xM
wOM
xNG
wINNN
pFINAL LETTER P
zER T
zER K
zER H
pLETTER GH
wLH
wZY
pFINAL LETTER G
pLETTER GW
wKW
wOE
wAH
gCJK STROKE T
rWG
rXG
rBXG
rSW
rHZZ
tG
sP
sZWG
rSZWG
rHZT
tZP
sPWG
sZW
tZZ
rN
rH
rS
rP
rSP
rD
rHZ
sG
rSZ
sWZ
sT
sG
rPD
sZ
rTN
rSZZ
sWG
rHXWG
sZZZG
rPG
rQ
dgKATAKANA LETTER SMALL KU
zLL SI
zLL SU
zLL TO
zLL NU
zLL HA
zLL HI
zLL HU
zLL HE
zLL HO
zLL MU
zLL RA
zLL RI
zLL RU
zLL RE
zLL RO
gPARENTHESIZED HANGUL KIYEOK
zL NIEUN
zL TIKEUT
zL RIEUL
zL MIEUM
zL PIEUP
zL SIOS
zL IEUNG
zL CIEUC
zL CHIEUCH
zL KHIEUKH
zL THIEUTH
zL PHIEUPH
zL HIEUH
zL KIYEOK A
zL NIEUN A
zL TIKEUT A
zL RIEUL A
zL MIEUM A
zL PIEUP A
zL SIOS A
zL IEUNG A
zL CIEUC A
zL CHIEUCH A
zL KHIEUKH A
zL THIEUTH A
zL PHIEUPH A
zL HIEUH A
zL CIEUC U
uKOREAN CHARACTER OJEON
zN CHARACTER O HU
2uIDEOGRAPH ONE
zRAPH TWO
zRAPH THREE
zRAPH FOUR
zRAPH FIVE
zRAPH SIX
zRAPH SEVEN
zRAPH EIGHT
zRAPH NINE
zRAPH TEN
zRAPH MOON
zRAPH FIRE
zRAPH WATER
zRAPH WOOD
zRAPH METAL
zRAPH EARTH
zRAPH SUN
zRAPH STOCK
zRAPH HAVE
zRAPH SOCIETY
zRAPH NAME
zRAPH SPECIAL
zRAPH FINANCIAL
zRAPH CONGRATULATION
zRAPH LABOR
zRAPH REPRESENT
zRAPH CALL
zRAPH STUDY
zRAPH SUPERVISE
zRAPH ENTERPRISE
zRAPH RESOURCE
zRAPH ALLIANCE
zRAPH FESTIVAL
zRAPH REST
zRAPH SELF
zRAPH REACH
gCIRCLED IDEOGRAPH QUESTION
yKINDERGARTEN
ySCHOOL
yKOTO
oNUMBER TEN ON BLACK SQUARE
wWENTY ON BLACK SQUARE
wHIRTY ON BLACK SQUARE
vFORTY ON BLACK SQUARE
wIFTY ON BLACK SQUARE
vSIXTY ON BLACK SQUARE
wEVENTY ON BLACK SQUARE
vEIGHTY ON BLACK SQUARE
gPARTNERSHIP SIGN
gCIRCLED NUMBER TWENTY ONE
zTY TWO
zTY THREE
zTY FOUR
zTY FIVE
zTY SIX
zTY SEVEN
zTY EIGHT
zTY NINE
wHIRTY
zTY ONE
zTY TWO
zTY THREE
zTY FOUR
zTY FIVE
oHANGUL KIYEOK
vNIEUN
vTIKEUT
vRIEUL
vMIEUM
vPIEUP
vSIOS
vIEUNG
vCIEUC
wHIEUCH
vKHIEUKH
vTHIEUTH
vPHIEUPH
vHIEUH
vKIYEOK A
vNIEUN A
vTIKEUT A
vRIEUL A
vMIEUM A
vPIEUP A
vSIOS A
vIEUNG A
vCIEUC A
wHIEUCH A
vKHIEUKH A
vTHIEUTH A
vPHIEUPH A
vHIEUH A
oKOREAN CHARACTER CHAMKO
zACTER JUEUI
oHANGUL IEUNG U
gKOREAN STANDARD SYMBOL
gCIRCLED IDEOGRAPH ONE
yTWO
zHREE
yFOUR
zIVE
ySIX
zEVEN
yEIGHT
yNINE
yTEN
yMOON
yFIRE
yWATER
zOOD
yMETAL
yEARTH
ySUN
zTOCK
yHAVE
ySOCIETY
yNAME
ySPECIAL
yFINANCIAL
yCONGRATULATION
yLABOR
ySECRET
yMALE
yFEMALE
ySUITABLE
yEXCELLENT
yPRINT
yATTENTION
yITEM
yREST
yCOPY
zORRECT
yHIGH
yCENTRE
yLOW
zEFT
yRIGHT
yMEDICINE
yRELIGION
ySTUDY
zUPERVISE
yENTERPRISE
yRESOURCE
yALLIANCE
yNIGHT
oNUMBER THIRTY SIX
zTY SEVEN
zTY EIGHT
zTY NINE
vFORTY
zY ONE
zY TWO
zY THREE
zY FOUR
zY FIVE
zY SIX
zY SEVEN
zY EIGHT
zY NINE
wIFTY
gIDEOGRAPHIC TELEGRAPH SYMBOL FOR JANUARY
zPH SYMBOL FOR FEBRUARY
zPH SYMBOL FOR MARCH
zPH SYMBOL FOR APRIL
zPH SYMBOL FOR MAY
zPH SYMBOL FOR JUNE
zPH SYMBOL FOR JULY
zPH SYMBOL FOR AUGUST
zPH SYMBOL FOR SEPTEMBER
zPH SYMBOL FOR OCTOBER
zPH SYMBOL FOR NOVEMBER
zPH SYMBOL FOR DECEMBER
gSQUARE HG
nERG
oV
gLIMITED LIABILITY SIGN
gCIRCLED KATAKANA A
xI
xU
xE
xO
xKA
yI
yU
yE
yO
xSA
yI
yU
yE
yO
xTA
yI
yU
yE
yO
xNA
yI
yU
yE
yO
xHA
yI
yU
yE
yO
xMA
yI
yU
yE
yO
xYA
yU
yO
xRA
yI
yU
yE
yO
xWA
yI
yE
yO
gSQUARE ERA NAME REIWA
nAPAATO
oRUHUA
oNPEA
oARU
nININGU
pTI
nUON
nESUKUUDO
oEKAA
nONSU
oOMU
nKAIRI
pRATTO
qORII
nGARON
pNMA
oIGA
pNII
nKYURII
nGIRUDAA
nKIRO
rGURAMU
rMEETORU
rWATTO
nGURAMU
tTON
nKURUZEIRO
qOONE
oEESU
oORUNA
pOPO
nSAIKURU
pNTIIMU
oIRINGU
oENTI
rO
nDAASU
oESI
oORU
nTON
nNANO
oOTTO
nHAITU
nPAASENTO
qTU
nBAARERU
nPIASUTORU
pKURU
qO
nBIRU
nHUARADDO
pIITO
nBUSSYERU
nHURAN
oEKUTAARU
nPESO
pNIHI
nHERUTU
nPENSU
pEZI
nBEETA
nPOINTO
nBORUTO
nHON
nPONDO
nHOORU
qN
nMAIKURO
qRU
pHHA
pRUKU
pNSYON
oIKURON
pRI
rBAARU
oEGA
rTON
pETORU
nYAADO
qRU
oUAN
nRITTORU
pRA
oUPII
pUBURU
oEMU
pNTOGEN
nWATTO
gIDEOGRAPHIC TELEGRAPH SYMBOL FOR HOUR ZERO
zPH SYMBOL FOR HOUR ONE
zPH SYMBOL FOR HOUR TWO
zPH SYMBOL FOR HOUR THREE
zPH SYMBOL FOR HOUR FOUR
zPH SYMBOL FOR HOUR FIVE
zPH SYMBOL FOR HOUR SIX
zPH SYMBOL FOR HOUR SEVEN
zPH SYMBOL FOR HOUR EIGHT
zPH SYMBOL FOR HOUR NINE
zPH SYMBOL FOR HOUR TEN
zPH SYMBOL FOR HOUR ELEVEN
zPH SYMBOL FOR HOUR TWELVE
zPH SYMBOL FOR HOUR THIRTEEN
zPH SYMBOL FOR HOUR FOURTEEN
zPH SYMBOL FOR HOUR FIFTEEN
zPH SYMBOL FOR HOUR SIXTEEN
zPH SYMBOL FOR HOUR SEVENTEEN
zPH SYMBOL FOR HOUR EIGHTEEN
zPH SYMBOL FOR HOUR NINETEEN
zPH SYMBOL FOR HOUR TWENTY
zPH SYMBOL FOR HOUR TWENTY-ONE
zPH SYMBOL FOR HOUR TWENTY-TWO
zPH SYMBOL FOR HOUR TWENTY-THREE
zPH SYMBOL FOR HOUR TWENTY-FOUR
gSQUARE HPA
nDA
nAU
nBAR
nOV
nPC
nDM
p SQUARED
qCUBED
nIU
nERA NAME HEISEI
wSYOUWA
wTAISYOU
wMEIZI
nCORPORATION
nPA AMPS
nNA
nMU A
oA
nKA
oB
nMB
nGB
nCAL
nKCAL
nPF
nNF
nMU F
qG
oG
nKG
nHZ
nKHZ
nMHZ
nGHZ
nTHZ
nMU L
oL
nDL
nKL
nFM
nNM
nMU M
oM
nCM
nKM
nMM SQUARED
nCM SQUARED
nM SQUARED
nKM SQUARED
nMM CUBED
nCM CUBED
nM CUBED
nKM CUBED
nM OVER S
v SQUARED
nPA
nKPA
nMPA
nGPA
nRAD
q OVER S
x SQUARED
nPS
nNS
nMU S
oS
nPV
nNV
nMU V
oV
nKV
nMV MEGA
nPW
nNW
nMU W
oW
nKW
nMW MEGA
nK OHM
nM OHM
nAM
nBQ
nCC
oD
o OVER KG
oO
nDB
nGY
nHA
oP
nIN
nKK
oM CAPITAL
oT
nLM
oN
oOG
oX
nMB SMALL
oIL
oOL
nPH
oM
oPM
oR
nSR
oV
nWB
nV OVER M
nA OVER M
gIDEOGRAPHIC TELEGRAPH SYMBOL FOR DAY ONE
zPH SYMBOL FOR DAY TWO
zPH SYMBOL FOR DAY THREE
zPH SYMBOL FOR DAY FOUR
zPH SYMBOL FOR DAY FIVE
zPH SYMBOL FOR DAY SIX
zPH SYMBOL FOR DAY SEVEN
zPH SYMBOL FOR DAY EIGHT
zPH SYMBOL FOR DAY NINE
zPH SYMBOL FOR DAY TEN
zPH SYMBOL FOR DAY ELEVEN
zPH SYMBOL FOR DAY TWELVE
zPH SYMBOL FOR DAY THIRTEEN
zPH SYMBOL FOR DAY FOURTEEN
zPH SYMBOL FOR DAY FIFTEEN
zPH SYMBOL FOR DAY SIXTEEN
zPH SYMBOL FOR DAY SEVENTEEN
zPH SYMBOL FOR DAY EIGHTEEN
zPH SYMBOL FOR DAY NINETEEN
zPH SYMBOL FOR DAY TWENTY
zPH SYMBOL FOR DAY TWENTY-ONE
zPH SYMBOL FOR DAY TWENTY-TWO
zPH SYMBOL FOR DAY TWENTY-THREE
zPH SYMBOL FOR DAY TWENTY-FOUR
zPH SYMBOL FOR DAY TWENTY-FIVE
zPH SYMBOL FOR DAY TWENTY-SIX
zPH SYMBOL FOR DAY TWENTY-SEVEN
zPH SYMBOL FOR DAY TWENTY-EIGHT
zPH SYMBOL FOR DAY TWENTY-NINE
zPH SYMBOL FOR DAY THIRTY
zPH SYMBOL FOR DAY THIRTY-ONE
gSQUARE GAL
19c1gHEXAGRAM FOR THE CREATIVE HEAVEN
xRECEPTIVE EARTH
tDIFFICULTY AT THE BEGINNING
tYOUTHFUL FOLLY
tWAITING
tCONFLICT
tTHE ARMY
tHOLDING TOGETHER
tSMALL TAMING
tTREADING
tPEACE
tSTANDSTILL
tFELLOWSHIP
tGREAT POSSESSION
tMODESTY
tENTHUSIASM
tFOLLOWING
tWORK ON THE DECAYED
tAPPROACH
tCONTEMPLATION
tBITING THROUGH
tGRACE
tSPLITTING APART
tRETURN
tINNOCENCE
tGREAT TAMING
tMOUTH CORNERS
tGREAT PREPONDERANCE
tTHE ABYSMAL WATER
xCLINGING FIRE
tINFLUENCE
tDURATION
tRETREAT
tGREAT POWER
tPROGRESS
tDARKENING OF THE LIGHT
tTHE FAMILY
tOPPOSITION
uBSTRUCTION
tDELIVERANCE
vCREASE
tINCREASE
tBREAKTHROUGH
tCOMING TO MEET
tGATHERING TOGETHER
tPUSHING UPWARD
tOPPRESSION
tTHE WELL
tREVOLUTION
tTHE CAULDRON
xAROUSING THUNDER
xKEEPING STILL MOUNTAIN
tDEVELOPMENT
tTHE MARRYING MAIDEN
tABUNDANCE
tTHE WANDERER
xGENTLE WIND
xJOYOUS LAKE
tDISPERSION
tLIMITATION
tINNER TRUTH
tSMALL PREPONDERANCE
tAFTER COMPLETION
tBEFORE COMPLETION
5201gYI SYLLABLE IT
tX
t
tP
tET
uX
u
uP
sAT
tX
t
tP
sUOX
u
uP
sOT
tX
t
tP
sEX
t
sITERATION MARK
0sWU
sBIT
uX
u
uP
uET
vX
v
vP
tAT
uX
u
uP
tUOX
v
vP
tOT
uX
u
uP
tEX
u
uP
tUT
uX
u
uP
uRX
v
tYT
uX
u
uP
uRX
v
sPIT
uX
u
uP
uEX
v
vP
tAT
uX
u
uP
tUOX
v
vP
tOT
uX
u
uP
tUT
uX
u
uP
uRX
v
tYT
uX
u
uP
uRX
v
sBBIT
vX
v
vP
vET
wX
w
wP
uAT
vX
v
vP
uUOX
w
wP
uOT
vX
v
vP
uEX
v
vP
uUT
vX
v
vP
vRX
w
uYT
vX
v
vP
sNBIT
vX
v
vP
vEX
w
wP
uAT
vX
v
vP
uOT
vX
v
vP
uUT
vX
v
vP
vRX
w
uYT
vX
v
vP
vRX
w
sHMIT
vX
v
vP
vEX
w
wP
uAT
vX
v
vP
uUOX
w
wP
uOT
vX
v
vP
uUT
vX
v
vP
vRX
w
uYX
v
vP
vRX
w
sMIT
uX
u
uP
uEX
v
vP
tAT
uX
u
uP
tUOT
vX
v
vP
tOT
uX
u
uP
tEX
u
tUT
uX
u
uP
uRX
v
tYT
uX
u
uP
sFIT
uX
u
uP
tAT
uX
u
uP
tOX
u
uP
tUT
uX
u
uP
uRX
v
tYT
uX
u
uP
sVIT
uX
u
uP
uET
vX
v
vP
tAT
uX
u
uP
tOT
uX
u
uP
tEX
uP
tUT
uX
u
uP
uRX
v
tYT
uX
u
uP
uRX
v
sDIT
uX
u
uP
uEX
v
vP
tAT
uX
u
uP
tUOX
v
tOT
uX
u
uP
tEX
u
uP
tUT
uX
u
uP
uRX
v
sTIT
uX
u
uP
uEX
v
vP
tAT
uX
u
uP
tUOT
vX
v
vP
tOT
uX
u
uP
tEX
u
uP
tUT
uX
u
uP
uRX
v
sDDIT
vX
v
vP
vEX
w
wP
uAT
vX
v
vP
uUOX
w
wP
uOT
vX
v
vP
uEX
v
vP
uUT
vX
v
vP
vRX
w
sNDIT
vX
v
vP
vEX
w
uAT
vX
v
vP
uOT
vX
v
vP
uEX
v
vP
uUT
vX
v
vP
vRX
w
sHNIT
vX
v
vP
vET
wX
w
wP
uAT
vX
v
vP
uUOX
w
uOT
vX
vP
uEX
v
vP
uUT
sNIT
uX
u
uP
uEX
v
vP
tAX
u
uP
tUOX
v
vP
tOT
uX
u
uP
tEX
u
uP
tUT
uX
u
uP
uRX
v
sHLIT
vX
v
vP
vEX
w
wP
uAT
vX
v
vP
uUOX
w
wP
uOX
v
vP
uEX
v
vP
uUT
vX
v
vP
vRX
w
uYT
vX
v
vP
vRX
w
sLIT
uX
u
uP
uET
vX
v
vP
tAT
uX
u
uP
tUOT
vX
v
vP
tOT
uX
u
uP
tEX
u
uP
tUT
uX
u
uP
uRX
v
tYT
uX
u
uP
uRX
v
sGIT
uX
u
uP
uET
vX
v
vP
tAT
uX
u
uP
tUOT
vX
v
vP
tOT
uX
u
uP
tET
uX
u
uP
tUT
uX
u
uP
uRX
v
sKIT
uX
u
uP
uEX
v
vP
tAT
uX
u
uP
tUOX
v
vP
tOT
uX
u
uP
tET
uX
u
uP
tUT
uX
u
uP
uRX
v
sGGIT
vX
v
vEX
w
wP
uAT
vX
v
vP
uUOT
wX
w
wP
uOT
vX
v
vP
uET
vX
v
vP
uUT
vX
v
vP
vRX
w
sMGIEX
w
uAT
vX
v
vP
uUOX
w
wP
uOT
vX
v
vP
uEX
v
vP
uUT
vX
v
vP
vRX
w
sHXIT
vX
v
vP
vET
wX
w
wP
uAT
vX
v
vP
uUOT
wX
w
wP
uOT
vX
v
vP
uEX
v
vP
sNGIEX
w
wP
uAT
vX
v
vP
uUOT
wX
w
uOT
vX
v
vP
uEX
v
vP
sHIT
uEX
v
tAT
uX
u
uP
tUOT
vX
v
vP
tOT
uX
u
uP
tEX
u
uP
sWAT
uX
u
uP
tUOX
v
vP
tOX
u
uP
tEX
u
uP
sZIT
uX
u
uP
uEX
v
vP
tAT
uX
u
uP
tUOX
v
vP
tOT
uX
u
uP
tEX
u
uP
tUT
uX
u
uP
uRX
v
tYT
uX
u
uP
uRX
v
sCIT
uX
u
uP
uET
vX
v
vP
tAT
uX
u
uP
tUOX
v
vP
tOT
uX
u
uP
tEX
u
uP
tUT
uX
u
uP
uRX
v
tYT
uX
u
uP
uRX
v
sZZIT
vX
v
vP
vET
wX
w
wP
uAT
vX
v
vP
uOX
v
vP
uEX
v
vP
uUX
v
vP
vRX
w
uYT
vX
v
vP
vRX
w
sNZIT
vX
v
vP
vEX
w
wP
uAT
vX
v
vP
uUOX
w
uOX
vP
uEX
v
uUX
v
vP
vRX
w
uYT
vX
v
vP
vRX
w
sSIT
uX
u
uP
uEX
v
vP
tAT
uX
u
uP
tUOX
v
vP
tOT
uX
u
uP
tEX
u
uP
tUT
uX
u
uP
uRX
v
tYT
uX
u
uP
uRX
v
tSIT
vX
v
vP
vEX
w
wP
uAT
vX
v
vP
uOT
vX
v
vP
uEX
v
vP
uUT
vX
v
vP
uYT
vX
v
vP
vRX
w
sZHAT
vX
v
vP
uUOX
w
wP
uOT
vX
v
vP
uET
vX
v
vP
uUT
vX
v
vP
vRX
w
uYT
vX
v
vP
vRX
w
sCHAT
vX
v
vP
uUOT
wX
w
wP
uOT
vX
v
vP
uET
vX
v
vP
uUX
v
vP
vRX
w
uYT
vX
v
vP
vRX
w
sRRAX
v
uUOX
w
uOT
vX
v
vP
uET
vX
v
vP
uUT
vX
v
vP
vRX
w
uYT
vX
v
vP
vRX
w
sNRAT
vX
v
vP
uOX
v
vP
uET
vX
v
vP
uUT
vX
v
vP
vRX
w
uYT
vX
v
vP
vRX
w
sSHAT
vX
v
vP
uUOX
w
wP
uOT
vX
v
vP
uET
vX
v
vP
uUT
vX
v
vP
vRX
w
uYT
vX
v
vP
vRX
w
sRAT
uX
u
uP
tUOX
v
vP
tOT
uX
u
uP
tEX
u
uP
tUT
uX
u
uP
uRX
v
tYT
uX
u
uP
uRX
v
sJIT
uX
u
uP
uET
vX
v
vP
tUOT
vX
v
vP
tOT
uX
u
uP
tUT
uX
u
uP
uRX
v
tYT
uX
u
uP
uRX
v
sQIT
uX
u
uP
uET
vX
v
vP
tUOT
vX
v
vP
tOT
uX
u
uP
tUT
uX
u
uP
uRX
v
tYT
uX
u
uP
uRX
v
sJJIT
vX
v
vP
vET
wX
w
wP
uUOX
w
wP
uOT
vX
v
vP
uUT
vX
v
vP
vRX
w
uYT
vX
v
vP
sNJIT
vX
v
vP
vET
wX
w
wP
uUOX
w
uOT
vX
v
vP
uUX
v
vP
vRX
w
uYT
vX
v
vP
vRX
w
tYIT
vX
v
vP
vET
wX
w
wP
uUOX
w
wP
uOT
vX
v
vP
uUT
vX
v
vP
sXIT
uX
u
uP
uET
vX
v
vP
tUOX
v
tOT
uX
u
uP
tYT
uX
u
uP
uRX
v
sYIT
uX
u
uP
uET
vX
v
vP
tUOT
vX
v
vP
tOT
uX
u
uP
tUT
uX
u
uP
uRX
v
tYT
uX
u
uP
uRX
v
4jRADICAL QOT
rLI
rKIT
rNYIP
rCYP
rSSI
rGGOP
sEP
rMI
rHXIT
rLYR
rBBUT
rMOP
rYO
rPUT
rHXUO
rTAT
rGA
rZUP
rCYT
rDDUR
rBUR
rGGUO
rNYOP
rTU
rOP
rJJUT
rZOT
rPYT
rHMO
rYIT
rVUR
rSHY
rVEP
rZA
rJO
rNZUP
rJJY
rGOT
rJJIE
rWO
rDU
rSHUR
rLIE
rCY
sUOP
sIP
rHXOP
rSHAT
rZUR
rSHOP
rCHE
rZZIET
rNBIE
rKE
agLISU LETTER BA
sPA
tHA
sDA
sTA
tHA
sGA
sKA
tHA
sJA
sCA
tHA
sDZA
sTSA
uHA
sMA
sNA
sLA
sSA
sZHA
tA
sNGA
sHA
sXA
sHHA
sFA
sWA
sSHA
sYA
sGHA
sA
tE
sE
tU
sI
sO
sU
tE
tH
sOE
sTONE MYA TI
xNA PO
xMYA CYA
zA BO
zA NA
zA JEU
lPUNCTUATION COMMA
xFULL STOP
gVAI SYLLABLE EE
vN
tHEE
tWEE
wN
tPEE
tBHEE
uEE
tMBEE
tKPEE
tMGBEE
tGBEE
tFEE
tVEE
tTEE
uHEE
tDHEE
vHEE
tLEE
tREE
tDEE
tNDEE
tSEE
uHEE
tZEE
uHEE
tCEE
tJEE
tNJEE
tYEE
tKEE
tNGGEE
tGEE
tMEE
tNEE
uYEE
tI
uN
tHI
vN
tWI
vN
tPI
tBHI
uI
tMBI
tKPI
tMGBI
tGBI
tFI
tVI
tTI
uHI
tDHI
vHI
tLI
tRI
tDI
tNDI
tSI
uHI
tZI
uHI
tCI
tJI
tNJI
tYI
tKI
tNGGI
tGI
tMI
tNI
uYI
tA
uN
tNGAN
tHA
vN
tWA
vN
tPA
tBHA
uA
tMBA
tKPA
wN
tMGBA
tGBA
tFA
tVA
tTA
uHA
tDHA
vHA
tLA
tRA
tDA
tNDA
tSA
uHA
tZA
uHA
tCA
tJA
tNJA
tYA
tKA
vN
tNGGA
tGA
tMA
tNA
uYA
tOO
vN
tHOO
tWOO
wN
tPOO
tBHOO
uOO
tMBOO
tKPOO
tMGBOO
tGBOO
tFOO
tVOO
tTOO
uHOO
tDHOO
vHOO
tLOO
tROO
tDOO
tNDOO
tSOO
uHOO
tZOO
uHOO
tCOO
tJOO
tNJOO
tYOO
tKOO
tNGGOO
tGOO
tMOO
tNOO
uYOO
tU
uN
tHU
vN
tWU
vN
tPU
tBHU
uU
tMBU
tKPU
tMGBU
tGBU
tFU
tVU
tTU
uHU
tDHU
vHU
tLU
tRU
tDU
tNDU
tSU
uHU
tZU
uHU
tCU
tJU
tNJU
tYU
tKU
tNGGU
tGU
tMU
tNU
uYU
tO
uN
tNGON
tHO
vN
tWO
vN
tPO
tBHO
uO
tMBO
tKPO
tMGBO
tGBO
wN
tFO
tVO
tTO
uHO
tDHO
vHO
tLO
tRO
tDO
tNDO
tSO
uHO
tZO
uHO
tCO
tJO
tNJO
tYO
tKO
tNGGO
tGO
tMO
tNO
uYO
tE
uN
tNGEN
tHE
vN
tWE
vN
tPE
tBHE
uE
tMBE
tKPE
wN
tMGBE
tGBE
wN
tFE
tVE
tTE
uHE
tDHE
vHE
tLE
tRE
tDE
tNDE
tSE
uHE
tZE
uHE
tCE
tJE
tNJE
tYE
tKE
tNGGE
xN
tGE
vN
tME
tNE
uYE
uG
tLENGTHENER
kCOMMA
kFULL STOP
kQUESTION MARK
kSYLLABLE NDOLE FA
zKA
zSOO
mMBOL FEENG
rKEENG
rTING
rNII
rBANG
rFAA
rTAA
rDANG
sOONG
rKUNG
rTONG
rDO-O
rJONG
kDIGIT ZERO
qONE
qTWO
rHREE
qFOUR
rIVE
qSIX
rEVEN
qEIGHT
qNINE
kSYLLABLE NDOLE MA
zDO
15gCYRILLIC CAPITAL LETTER ZEMLYA
pSMALL LETTER ZEMLYA
pCAPITAL LETTER DZELO
pSMALL LETTER DZELO
pCAPITAL LETTER REVERSED DZE
pSMALL LETTER REVERSED DZE
pCAPITAL LETTER IOTA
pSMALL LETTER IOTA
pCAPITAL LETTER DJERV
pSMALL LETTER DJERV
pCAPITAL LETTER MONOGRAPH UK
pSMALL LETTER MONOGRAPH UK
pCAPITAL LETTER BROAD OMEGA
pSMALL LETTER BROAD OMEGA
pCAPITAL LETTER NEUTRAL YER
pSMALL LETTER NEUTRAL YER
pCAPITAL LETTER YERU WITH BACK YER
pSMALL LETTER YERU WITH BACK YER
pCAPITAL LETTER IOTIFIED YAT
pSMALL LETTER IOTIFIED YAT
pCAPITAL LETTER REVERSED YU
pSMALL LETTER REVERSED YU
pCAPITAL LETTER IOTIFIED A
pSMALL LETTER IOTIFIED A
pCAPITAL LETTER CLOSED LITTLE YUS
pSMALL LETTER CLOSED LITTLE YUS
pCAPITAL LETTER BLENDED YUS
pSMALL LETTER BLENDED YUS
pCAPITAL LETTER IOTIFIED CLOSED LITTLE YUS
pSMALL LETTER IOTIFIED CLOSED LITTLE YUS
pCAPITAL LETTER YN
pSMALL LETTER YN
pCAPITAL LETTER REVERSED TSE
pSMALL LETTER REVERSED TSE
pCAPITAL LETTER SOFT DE
pSMALL LETTER SOFT DE
pCAPITAL LETTER SOFT EL
pSMALL LETTER SOFT EL
pCAPITAL LETTER SOFT EM
pSMALL LETTER SOFT EM
pCAPITAL LETTER MONOCULAR O
pSMALL LETTER MONOCULAR O
pCAPITAL LETTER BINOCULAR O
pSMALL LETTER BINOCULAR O
pCAPITAL LETTER DOUBLE MONOCULAR O
pSMALL LETTER DOUBLE MONOCULAR O
pLETTER MULTIOCULAR O
hOMBINING CYRILLIC VZMET
zTEN MILLIONS SIGN
zHUNDRED MILLIONS SIGN
zTHOUSAND MILLIONS SIGN
gSLAVONIC ASTERISK
gCOMBINING CYRILLIC LETTER UKRAINIAN IE
zLETTER I
zLETTER YI
zLETTER U
zLETTER HARD SIGN
zLETTER YERU
zLETTER SOFT SIGN
zLETTER OMEGA
zKAVYKA
zPAYEROK
hYRILLIC KAVYKA
pPAYEROK
pCAPITAL LETTER DWE
pSMALL LETTER DWE
pCAPITAL LETTER DZWE
pSMALL LETTER DZWE
pCAPITAL LETTER ZHWE
pSMALL LETTER ZHWE
pCAPITAL LETTER CCHE
pSMALL LETTER CCHE
pCAPITAL LETTER DZZE
pSMALL LETTER DZZE
pCAPITAL LETTER TE WITH MIDDLE HOOK
pSMALL LETTER TE WITH MIDDLE HOOK
pCAPITAL LETTER TWE
pSMALL LETTER TWE
pCAPITAL LETTER TSWE
pSMALL LETTER TSWE
pCAPITAL LETTER TSSE
pSMALL LETTER TSSE
pCAPITAL LETTER TCHE
pSMALL LETTER TCHE
pCAPITAL LETTER HWE
pSMALL LETTER HWE
pCAPITAL LETTER SHWE
pSMALL LETTER SHWE
pCAPITAL LETTER DOUBLE O
pSMALL LETTER DOUBLE O
pCAPITAL LETTER CROSSED O
pSMALL LETTER CROSSED O
gMODIFIER LETTER CYRILLIC HARD SIGN
zILLIC SOFT SIGN
gCOMBINING CYRILLIC LETTER EF
zLETTER IOTIFIED E
gBAMUM LETTER A
tKA
tU
tKU
tEE
tREE
tTAE
tO
tNYI
tI
tLA
tPA
tRII
vEE
tLEEEE
tMEEEE
tTAA
tNDAA
uJAEM
tM
tSUU
tMU
tSHII
uI
uHEUX
uEUX
tKYEE
uET
tNUAE
v
uJUAE
tYOQ
tSHU
tYUQ
uA
tNSHA
tKEUX
tPEUX
tNJEE
uTEE
tPUE
tWUE
tPEE
tFEE
tRU
tLU
tMI
tNI
tREUX
uAE
tKEN
tNGKWAEN
vGA
vA
tSHO
tPUAE
tFU
uOM
tWA
tNA
tLI
tPI
tLOQ
tKO
tMBEN
tREN
tMEN
uA
tTI
tKI
tMO
uBAA
tTET
tKPA
tTEN
tNTUU
tSAMBA
tFAAMAE
tKOVUU
vGHOM
mCOMBINING MARK KOQNDON
zK TUKWENTIS
mNJAEMLI
mFULL STOP
mCOLON
oMMA
mSEMICOLON
mQUESTION MARK
9gMODIFIER LETTER CHINESE TONE YIN PING
zNESE TONE YANG PING
zNESE TONE YIN SHANG
zNESE TONE YANG SHANG
zNESE TONE YIN QU
zNESE TONE YANG QU
zNESE TONE YIN RU
zNESE TONE YANG RU
wEXTRA-HIGH DOTTED TONE BAR
wHIGH DOTTED TONE BAR
wMID DOTTED TONE BAR
wLOW DOTTED TONE BAR
wEXTRA-LOW DOTTED TONE BAR
zRA-HIGH DOTTED LEFT-STEM TONE BAR
wHIGH DOTTED LEFT-STEM TONE BAR
wMID DOTTED LEFT-STEM TONE BAR
wLOW DOTTED LEFT-STEM TONE BAR
wEXTRA-LOW DOTTED LEFT-STEM TONE BAR
zRA-HIGH LEFT-STEM TONE BAR
wHIGH LEFT-STEM TONE BAR
wMID LEFT-STEM TONE BAR
wLOW LEFT-STEM TONE BAR
wEXTRA-LOW LEFT-STEM TONE BAR
wDOT VERTICAL BAR
z SLASH
z HORIZONTAL BAR
wLOWER RIGHT CORNER ANGLE
wRAISED UP ARROW
zSED DOWN ARROW
zSED EXCLAMATION MARK
zSED INVERTED EXCLAMATION MARK
wLOW INVERTED EXCLAMATION MARK
wSTRESS AND HIGH TONE
zESS AND LOW TONE
gLATIN CAPITAL LETTER EGYPTOLOGICAL ALEF
mSMALL LETTER EGYPTOLOGICAL ALEF
mCAPITAL LETTER EGYPTOLOGICAL AIN
mSMALL LETTER EGYPTOLOGICAL AIN
mCAPITAL LETTER HENG
mSMALL LETTER HENG
mCAPITAL LETTER TZ
mSMALL LETTER TZ
mCAPITAL LETTER TRESILLO
mSMALL LETTER TRESILLO
mCAPITAL LETTER CUATRILLO
mSMALL LETTER CUATRILLO
mCAPITAL LETTER CUATRILLO WITH COMMA
mSMALL LETTER CUATRILLO WITH COMMA
mLETTER SMALL CAPITAL F
zCAPITAL S
mCAPITAL LETTER AA
mSMALL LETTER AA
mCAPITAL LETTER AO
mSMALL LETTER AO
mCAPITAL LETTER AU
mSMALL LETTER AU
mCAPITAL LETTER AV
mSMALL LETTER AV
mCAPITAL LETTER AV WITH HORIZONTAL BAR
mSMALL LETTER AV WITH HORIZONTAL BAR
mCAPITAL LETTER AY
mSMALL LETTER AY
mCAPITAL LETTER REVERSED C WITH DOT
mSMALL LETTER REVERSED C WITH DOT
mCAPITAL LETTER K WITH STROKE
mSMALL LETTER K WITH STROKE
mCAPITAL LETTER K WITH DIAGONAL STROKE
mSMALL LETTER K WITH DIAGONAL STROKE
mCAPITAL LETTER K WITH STROKE AND DIAGONAL STROKE
mSMALL LETTER K WITH STROKE AND DIAGONAL STROKE
mCAPITAL LETTER BROKEN L
mSMALL LETTER BROKEN L
mCAPITAL LETTER L WITH HIGH STROKE
mSMALL LETTER L WITH HIGH STROKE
mCAPITAL LETTER O WITH LONG STROKE OVERLAY
mSMALL LETTER O WITH LONG STROKE OVERLAY
mCAPITAL LETTER O WITH LOOP
mSMALL LETTER O WITH LOOP
mCAPITAL LETTER OO
mSMALL LETTER OO
mCAPITAL LETTER P WITH STROKE THROUGH DESCENDER
mSMALL LETTER P WITH STROKE THROUGH DESCENDER
mCAPITAL LETTER P WITH FLOURISH
mSMALL LETTER P WITH FLOURISH
mCAPITAL LETTER P WITH SQUIRREL TAIL
mSMALL LETTER P WITH SQUIRREL TAIL
mCAPITAL LETTER Q WITH STROKE THROUGH DESCENDER
mSMALL LETTER Q WITH STROKE THROUGH DESCENDER
mCAPITAL LETTER Q WITH DIAGONAL STROKE
mSMALL LETTER Q WITH DIAGONAL STROKE
mCAPITAL LETTER R ROTUNDA
mSMALL LETTER R ROTUNDA
mCAPITAL LETTER RUM ROTUNDA
mSMALL LETTER RUM ROTUNDA
mCAPITAL LETTER V WITH DIAGONAL STROKE
mSMALL LETTER V WITH DIAGONAL STROKE
mCAPITAL LETTER VY
mSMALL LETTER VY
mCAPITAL LETTER VISIGOTHIC Z
mSMALL LETTER VISIGOTHIC Z
mCAPITAL LETTER THORN WITH STROKE
mSMALL LETTER THORN WITH STROKE
mCAPITAL LETTER THORN WITH STROKE THROUGH DESCENDER
mSMALL LETTER THORN WITH STROKE THROUGH DESCENDER
mCAPITAL LETTER VEND
mSMALL LETTER VEND
mCAPITAL LETTER ET
mSMALL LETTER ET
mCAPITAL LETTER IS
mSMALL LETTER IS
mCAPITAL LETTER CON
mSMALL LETTER CON
gMODIFIER LETTER US
gLATIN SMALL LETTER DUM
zLUM
zMUM
zNUM
zRUM
mLETTER SMALL CAPITAL RUM
mSMALL LETTER TUM
zUM
mCAPITAL LETTER INSULAR D
mSMALL LETTER INSULAR D
mCAPITAL LETTER INSULAR F
mSMALL LETTER INSULAR F
mCAPITAL LETTER INSULAR G
zR TURNED INSULAR G
mSMALL LETTER TURNED INSULAR G
mCAPITAL LETTER TURNED L
mSMALL LETTER TURNED L
mCAPITAL LETTER INSULAR R
mSMALL LETTER INSULAR R
mCAPITAL LETTER INSULAR S
mSMALL LETTER INSULAR S
mCAPITAL LETTER INSULAR T
mSMALL LETTER INSULAR T
gMODIFIER LETTER LOW CIRCUMFLEX ACCENT
wCOLON
wSHORT EQUALS SIGN
gLATIN CAPITAL LETTER SALTILLO
mSMALL LETTER SALTILLO
mCAPITAL LETTER TURNED H
mSMALL LETTER L WITH RETROFLEX HOOK AND BELT
mLETTER SINOLOGICAL DOT
mCAPITAL LETTER N WITH DESCENDER
mSMALL LETTER N WITH DESCENDER
mCAPITAL LETTER C WITH BAR
mSMALL LETTER C WITH BAR
zC WITH PALATAL HOOK
zH WITH PALATAL HOOK
mCAPITAL LETTER B WITH FLOURISH
mSMALL LETTER B WITH FLOURISH
mCAPITAL LETTER F WITH STROKE
mSMALL LETTER F WITH STROKE
mCAPITAL LETTER VOLAPUK AE
mSMALL LETTER VOLAPUK AE
mCAPITAL LETTER VOLAPUK OE
mSMALL LETTER VOLAPUK OE
mCAPITAL LETTER VOLAPUK UE
mSMALL LETTER VOLAPUK UE
mCAPITAL LETTER G WITH OBLIQUE STROKE
mSMALL LETTER G WITH OBLIQUE STROKE
mCAPITAL LETTER K WITH OBLIQUE STROKE
mSMALL LETTER K WITH OBLIQUE STROKE
mCAPITAL LETTER N WITH OBLIQUE STROKE
mSMALL LETTER N WITH OBLIQUE STROKE
mCAPITAL LETTER R WITH OBLIQUE STROKE
mSMALL LETTER R WITH OBLIQUE STROKE
mCAPITAL LETTER S WITH OBLIQUE STROKE
mSMALL LETTER S WITH OBLIQUE STROKE
mCAPITAL LETTER H WITH HOOK
zR REVERSED OPEN E
zR SCRIPT G
zR L WITH BELT
zR SMALL CAPITAL I
mLETTER SMALL CAPITAL Q
mCAPITAL LETTER TURNED K
zR TURNED T
zR J WITH CROSSED-TAIL
zR CHI
zR BETA
mSMALL LETTER BETA
mCAPITAL LETTER OMEGA
mSMALL LETTER OMEGA
mCAPITAL LETTER U WITH STROKE
mSMALL LETTER U WITH STROKE
mCAPITAL LETTER GLOTTAL A
mSMALL LETTER GLOTTAL A
mCAPITAL LETTER GLOTTAL I
mSMALL LETTER GLOTTAL I
mCAPITAL LETTER GLOTTAL U
mSMALL LETTER GLOTTAL U
mCAPITAL LETTER OLD POLISH O
mSMALL LETTER OLD POLISH O
mCAPITAL LETTER ANGLICANA W
mSMALL LETTER ANGLICANA W
mCAPITAL LETTER C WITH PALATAL HOOK
zR S WITH HOOK
zR Z WITH PALATAL HOOK
zR D WITH SHORT STROKE OVERLAY
mSMALL LETTER D WITH SHORT STROKE OVERLAY
mCAPITAL LETTER S WITH SHORT STROKE OVERLAY
mSMALL LETTER S WITH SHORT STROKE OVERLAY
6mCAPITAL LETTER CLOSED INSULAR G
mSMALL LETTER CLOSED INSULAR G
2zDOUBLE THORN
2zDOUBLE WYNN
mCAPITAL LETTER MIDDLE SCOTS S
mSMALL LETTER MIDDLE SCOTS S
mCAPITAL LETTER SIGMOID S
mSMALL LETTER SIGMOID S
19gMODIFIER LETTER CAPITAL C
zITAL F
zITAL Q
gLATIN CAPITAL LETTER REVERSED HALF H
mSMALL LETTER REVERSED HALF H
mEPIGRAPHIC LETTER SIDEWAYS I
gMODIFIER LETTER CAPITAL H WITH STROKE
wSMALL LIGATURE OE
gLATIN LETTER SMALL CAPITAL TURNED M
mEPIGRAPHIC LETTER REVERSED F
zTTER REVERSED P
zTTER INVERTED M
zTTER I LONGA
zTTER ARCHAIC M
gSYLOTI NAGRI LETTER A
z I
tSIGN DVISVARA
tLETTER U
z E
z O
tSIGN HASANTA
tLETTER KO
z KHO
z GO
z GHO
tSIGN ANUSVARA
tLETTER CO
z CHO
z JO
z JHO
z TTO
z TTHO
z DDO
z DDHO
z TO
z THO
z DO
z DHO
z NO
z PO
z PHO
z BO
z BHO
z MO
z RO
z LO
z RRO
z SO
z HO
tVOWEL SIGN A
zSIGN I
zSIGN U
zSIGN E
zSIGN OO
tPOETRY MARK-1
z MARK-2
z MARK-3
z MARK-4
tSIGN ALTERNATE HASANTA
4gNORTH INDIC FRACTION ONE QUARTER
zN ONE HALF
zN THREE QUARTERS
zN ONE SIXTEENTH
zN ONE EIGHTH
zN THREE SIXTEENTHS
sQUARTER MARK
sPLACEHOLDER MARK
sRUPEE MARK
sQUANTITY MARK
7gPHAGS-PA LETTER KA
xHA
wGA
wNGA
wCA
xHA
wJA
wNYA
wTA
xHA
wDA
wNA
wPA
xHA
wBA
wMA
wTSA
yHA
wDZA
wWA
wZHA
xA
wSMALL A
wYA
wRA
wLA
wSHA
xA
wHA
wA
wI
wU
wE
wO
wQA
wXA
wFA
wGGA
wEE
pSUBJOINED LETTER WA
zLETTER YA
pLETTER TTA
yHA
wDDA
wNNA
wALTERNATE YA
wVOICELESS SHA
zCED HA
wASPIRATED FA
pSUBJOINED LETTER RA
rPERFIXED LETTER RA
pLETTER CANDRABINDU
pSINGLE HEAD MARK
pDOUBLE HEAD MARK
pMARK SHAD
uDOUBLE SHAD
9gSAURASHTRA SIGN ANUSVARA
wVISARGA
rLETTER A
zA
yI
zI
yU
zU
yVOCALIC R
zOCALIC RR
zOCALIC L
zOCALIC LL
yE
zE
yAI
yO
zO
yAU
yKA
zHA
yGA
zHA
yNGA
yCA
zHA
yJA
zHA
yNYA
yTTA
zTHA
yDDA
zDHA
yNNA
yTA
zHA
yDA
zHA
yNA
yPA
zHA
yBA
zHA
yMA
yYA
yRA
yLA
yVA
ySHA
zSA
zA
yHA
yLLA
rCONSONANT SIGN HAARU
rVOWEL SIGN AA
zGN I
zGN II
zGN U
zGN UU
zGN VOCALIC R
zGN VOCALIC RR
zGN VOCALIC L
zGN VOCALIC LL
zGN E
zGN EE
zGN AI
zGN O
zGN OO
zGN AU
rSIGN VIRAMA
wCANDRABINDU
9rDANDA
sOUBLE DANDA
sIGIT ZERO
xONE
xTWO
yHREE
xFOUR
yIVE
xSIX
yEVEN
xEIGHT
xNINE
7gCOMBINING DEVANAGARI DIGIT ZERO
zI DIGIT ONE
zI DIGIT TWO
zI DIGIT THREE
zI DIGIT FOUR
zI DIGIT FIVE
zI DIGIT SIX
zI DIGIT SEVEN
zI DIGIT EIGHT
zI DIGIT NINE
zI LETTER A
zI LETTER U
zI LETTER KA
zI LETTER NA
zI LETTER PA
zI LETTER RA
zI LETTER VI
zI SIGN AVAGRAHA
gDEVANAGARI SIGN SPACING CANDRABINDU
wCANDRABINDU VIRAMA
wDOUBLE CANDRABINDU VIRAMA
wCANDRABINDU TWO
zDRABINDU THREE
zDRABINDU AVAGRAHA
wPUSHPIKA
rGAP FILLER
rCARET
rHEADSTROKE
rSIGN SIDDHAM
rJAIN OM
rLETTER AY
rVOWEL SIGN AY
gKAYAH LI DIGIT ZERO
vONE
vTWO
wHREE
vFOUR
wIVE
vSIX
wEVEN
vEIGHT
vNINE
pLETTER KA
xHA
wGA
wNGA
wSA
xHA
wZA
wNYA
wTA
wHTA
wNA
wPA
xHA
wMA
wDA
wBA
wRA
wYA
wLA
wWA
wTHA
wHA
wVA
wCA
wA
wOE
wI
wOO
pVOWEL UE
vE
vU
vEE
vO
pTONE PLOPHU
uCALYA
z PLOPHU
pSIGN CWI
uSHYA
gREJANG LETTER KA
uGA
uNGA
uTA
uDA
uNA
uPA
uBA
uMA
uCA
uJA
uNYA
uSA
uRA
uLA
uYA
uWA
uHA
uMBA
uNGGA
vDA
vYJA
uA
nVOWEL SIGN I
yU
yE
yAI
yO
yAU
yEU
zA
nCONSONANT SIGN NG
zGN N
zGN R
zGN H
nVIRAMA
cnSECTION MARK
gHANGUL CHOSEONG TIKEUT-MIEUM
zEUT-PIEUP
zEUT-SIOS
zEUT-CIEUC
wRIEUL-KIYEOK
zUL-SSANGKIYEOK
zUL-TIKEUT
zUL-SSANGTIKEUT
zUL-MIEUM
zUL-PIEUP
zUL-SSANGPIEUP
zUL-KAPYEOUNPIEUP
zUL-SIOS
zUL-CIEUC
zUL-KHIEUKH
wMIEUM-KIYEOK
zUM-TIKEUT
zUM-SIOS
wPIEUP-SIOS-THIEUTH
zUP-KHIEUKH
zUP-HIEUH
wSSANGSIOS-PIEUP
wIEUNG-RIEUL
zNG-HIEUH
wSSANGCIEUC-HIEUH
zNGTHIEUTH
wPHIEUPH-HIEUH
wHIEUH-SIOS
wSSANGYEORINHIEUH
4gJAVANESE SIGN PANYANGGA
uCECAK
uLAYAR
uWIGNYAN
pLETTER A
wI KAWI
x
xI
wU
wPA CEREK
wNGA LELET
z LELET RASWADI
wE
wAI
wO
wKA
y SASAK
zMURDA
wGA
y MURDA
wNGA
wCA
y MURDA
wJA
wNYA MURDA
wJA MAHAPRANA
wNYA
wTTA
z MAHAPRANA
wDDA
z MAHAPRANA
wNA MURDA
wTA
y MURDA
wDA
y MAHAPRANA
wNA
wPA
y MURDA
wBA
y MURDA
wMA
wYA
wRA
y AGUNG
wLA
wWA
wSA MURDA
zMAHAPRANA
y
wHA
pSIGN CECAK TELU
pVOWEL SIGN TARUNG
z TOLONG
z WULU
z WULU MELIK
z SUKU
z SUKU MENDUT
z TALING
z DIRGA MURE
z PEPET
pCONSONANT SIGN KERET
zSIGN PENGKAL
zSIGN CAKRA
pPANGKON
pLEFT RERENGGAN
pRIGHT RERENGGAN
pPADA ANDAP
uMADYA
uLUHUR
uWINDU
uPANGKAT
uLINGSA
vUNGSI
uADEG
y ADEG
uPISELEH
pTURNED PADA PISELEH
2pPANGRANGKEP
pDIGIT ZERO
vONE
vTWO
wHREE
vFOUR
wIVE
vSIX
wEVEN
vEIGHT
vNINE
5pPADA TIRTA TUMETES
uISEN-ISEN
gMYANMAR LETTER SHAN GHA
z CHA
z JHA
z NNA
z BHA
oSIGN SHAN SAW
oMODIFIER LETTER SHAN REDUPLICATION
oLETTER TAI LAING NYA
zLAING FA
zLAING GA
zLAING GHA
zLAING JA
zLAING JHA
zLAING DDA
zLAING DDHA
zLAING NNA
oTAI LAING DIGIT ZERO
zIGIT ONE
zIGIT TWO
zIGIT THREE
zIGIT FOUR
zIGIT FIVE
zIGIT SIX
zIGIT SEVEN
zIGIT EIGHT
zIGIT NINE
oLETTER TAI LAING LLA
zLAING DA
zLAING DHA
zLAING BA
zLAING BHA
2gCHAM LETTER A
sI
sU
sE
sAI
sO
sKA
tHA
sGA
tHA
sNGUE
uA
sCHA
uHA
sJA
tHA
sNHUE
uA
uJA
sTA
tHA
sDA
tHA
sNUE
tA
sDDA
sPA
tPA
tHA
sBA
tHA
sMUE
tA
sBBA
sYA
sRA
sLA
sVA
sSSA
tA
sHA
lVOWEL SIGN AA
wI
xI
wEI
wU
wOE
x
wAI
xU
wUE
lCONSONANT SIGN YA
z RA
z LA
z WA
alLETTER FINAL K
yG
yNG
lCONSONANT SIGN FINAL NG
lLETTER FINAL CH
yT
yN
yP
yY
yR
yL
ySS
lCONSONANT SIGN FINAL M
z FINAL H
3lDIGIT ZERO
rONE
rTWO
sHREE
rFOUR
sIVE
rSIX
sEVEN
rEIGHT
rNINE
3lPUNCTUATION SPIRAL
xDANDA
yOUBLE DANDA
xTRIPLE DANDA
gMYANMAR LETTER KHAMTI GA
zTI CA
zTI CHA
zTI JA
zTI JHA
zTI NYA
zTI TTA
zTI TTHA
zTI DDA
zTI DDHA
zTI DHA
zTI NA
zTI SA
zTI HA
zTI HHA
0zTI LLA
zTI FA
oMODIFIER LETTER KHAMTI REDUPLICATION
oLETTER KHAMTI XA
zTI ZA
zTI RA
pOGOGRAM KHAMTI OAY
zAMTI QN
zAMTI HM
oSYMBOL AITON EXCLAMATION
zN ONE
zN TWO
oLETTER AITON RA
oSIGN PAO KAREN TONE
tTAI LAING TONE-2
zING TONE-5
oLETTER SHWE PALAUNG CHA
z PALAUNG SHA
gTAI VIET LETTER LOW KO
wHIGH KO
wLOW KHO
wHIGH KHO
wLOW KHHO
wHIGH KHHO
wLOW GO
wHIGH GO
wLOW NGO
wHIGH NGO
wLOW CO
wHIGH CO
wLOW CHO
wHIGH CHO
wLOW SO
wHIGH SO
wLOW NYO
wHIGH NYO
wLOW DO
wHIGH DO
wLOW TO
wHIGH TO
wLOW THO
wHIGH THO
wLOW NO
wHIGH NO
wLOW BO
wHIGH BO
wLOW PO
wHIGH PO
wLOW PHO
wHIGH PHO
wLOW FO
wHIGH FO
wLOW MO
wHIGH MO
wLOW YO
wHIGH YO
wLOW RO
wHIGH RO
wLOW LO
wHIGH LO
wLOW VO
wHIGH VO
wLOW HO
wHIGH HO
wLOW O
wHIGH O
pMAI KANG
pVOWEL AA
vI
vUE
w
vE
vO
pMAI KHIT
pVOWEL IA
vUEA
wA
vAUE
wY
wN
wM
pTONE MAI EK
yNUENG
yTHO
ySONG
19pSYMBOL KON
wNUENG
wSAM
wHO HOI
wKOI KOI
gMEETEI MAYEK LETTER E
z O
z CHA
z NYA
z TTA
z TTHA
z DDA
z DDHA
z NNA
z SHA
z SSA
tVOWEL SIGN II
zSIGN UU
zSIGN AAI
zSIGN AU
zSIGN AAU
tCHEIKHAN
tAHANG KHUDAM
uNJI
tSYLLABLE REPETITION MARK
tWORD REPETITION MARK
tVOWEL SIGN VISARGA
uIRAMA
bgETHIOPIC SYLLABLE TTHU
zTHI
zTHAA
zTHEE
zTHE
zTHO
3yDDHU
zDHI
zDHAA
zDHEE
zDHE
zDHO
3zZU
zZI
zZAA
zZEE
zZE
zZO
ayCCHHA
zCHHU
zCHHI
zCHHAA
zCHHEE
zCHHE
zCHHO
2yBBA
zBU
zBI
zBAA
zBEE
zBE
zBO
2gLATIN SMALL LETTER BARRED ALPHA
zA REVERSED-SCHWA
zBLACKLETTER E
zBARRED E
zE WITH FLOURISH
zLENIS F
zSCRIPT G WITH CROSSED-TAIL
zL WITH INVERTED LAZY S
zL WITH DOUBLE MIDDLE TILDE
zL WITH MIDDLE RING
zM WITH CROSSED-TAIL
zN WITH CROSSED-TAIL
zENG WITH CROSSED-TAIL
zBLACKLETTER O
zBLACKLETTER O WITH STROKE
zOPEN O WITH STROKE
zINVERTED OE
zTURNED OE WITH STROKE
zTURNED OE WITH HORIZONTAL STROKE
zTURNED O OPEN-O
zTURNED O OPEN-O WITH STROKE
zSTIRRUP R
mLETTER SMALL CAPITAL R WITH RIGHT LEG
mSMALL LETTER R WITHOUT HANDLE
zDOUBLE R
zR WITH CROSSED-TAIL
zDOUBLE R WITH CROSSED-TAIL
zSCRIPT R
zSCRIPT R WITH RING
zBASELINE ESH
zU WITH SHORT RIGHT LEG
zU BAR WITH SHORT RIGHT LEG
zUI
zTURNED UI
zU WITH LEFT HOOK
zCHI
zCHI WITH LOW RIGHT RING
zCHI WITH LOW LEFT SERIF
zX WITH LOW RIGHT RING
zX WITH LONG LEFT LEG
zX WITH LONG LEFT LEG AND LOW RIGHT RING
zX WITH LONG LEFT LEG WITH SERIF
zY WITH SHORT RIGHT LEG
gMODIFIER BREVE WITH INVERTED BREVE
pLETTER SMALL HENG
zLL L WITH INVERTED LAZY S
zLL L WITH MIDDLE TILDE
zLL U WITH LEFT HOOK
gLATIN SMALL LETTER SAKHA YAT
zIOTIFIED E
zOPEN OE
zUO
zINVERTED ALPHA
gGREEK LETTER SMALL CAPITAL OMEGA
gLATIN SMALL LETTER DZ DIGRAPH WITH RETROFLEX HOOK
zTS DIGRAPH WITH RETROFLEX HOOK
zTURNED R WITH MIDDLE TILDE
gMODIFIER LETTER SMALL TURNED W
wLEFT TACK
wRIGHT TACK
5gCHEROKEE SMALL LETTER A
zER E
zER I
zER O
zER U
zER V
zER GA
zER KA
zER GE
zER GI
zER GO
zER GU
zER GV
zER HA
zER HE
zER HI
zER HO
zER HU
zER HV
zER LA
zER LE
zER LI
zER LO
zER LU
zER LV
zER MA
zER ME
zER MI
zER MO
zER MU
zER NA
zER HNA
zER NAH
zER NE
zER NI
zER NO
zER NU
zER NV
zER QUA
zER QUE
zER QUI
zER QUO
zER QUU
zER QUV
zER SA
zER S
zER SE
zER SI
zER SO
zER SU
zER SV
zER DA
zER TA
zER DE
zER TE
zER DI
zER TI
zER DO
zER DU
zER DV
zER DLA
zER TLA
zER TLE
zER TLI
zER TLO
zER TLU
zER TLV
zER TSA
zER TSE
zER TSI
zER TSO
zER TSU
zER TSV
zER WA
zER WE
zER WI
zER WO
zER WU
zER WV
zER YA
gMEETEI MAYEK LETTER KOK
z SAM
z LAI
z MIT
z PA
z NA
z CHIL
z TIL
z KHOU
z NGOU
z THOU
z WAI
z YANG
z HUK
z UN
z I
z PHAM
z ATIYA
z GOK
z JHAM
z RAI
z BA
z JIL
z DIL
z GHOU
z DHOU
z BHAM
z KOK LONSUM
z LAI LONSUM
z MIT LONSUM
z PA LONSUM
z NA LONSUM
z TIL LONSUM
z NGOU LONSUM
z I LONSUM
tVOWEL SIGN ONAP
zSIGN INAP
zSIGN ANAP
zSIGN YENAP
zSIGN SOUNAP
zSIGN UNAP
zSIGN CHEINAP
zSIGN NUNG
tCHEIKHEI
tLUM IYEK
tAPUN IYEK
3tDIGIT ZERO
zONE
zTWO
zTHREE
zFOUR
zFIVE
zSIX
zSEVEN
zEIGHT
zNINE
2bb7gHANGUL JUNGSEONG O-YEO
zO-I
xYO-A
z-AE
z-EO
xU-YEO
zI-I
xYU-AE
z-O
xEU-A
z-EO
z-E
z-O
xI-YA-O
zYAE
zYEO
zYE
zO-I
zYO
zYU
zI
xARAEA-A
zAEA-E
5oONGSEONG NIEUN-RIEUL
zEUN-CHIEUCH
xSSANGTIKEUT
zANGTIKEUT-PIEUP
xTIKEUT-PIEUP
zKEUT-SIOS
zKEUT-SIOS-KIYEOK
zKEUT-CIEUC
zKEUT-CHIEUCH
zKEUT-THIEUTH
xRIEUL-SSANGKIYEOK
zEUL-KIYEOK-HIEUH
xSSANGRIEUL-KHIEUKH
xRIEUL-MIEUM-HIEUH
zEUL-PIEUP-TIKEUT
zEUL-PIEUP-PHIEUPH
zEUL-YESIEUNG
zEUL-YEORINHIEUH-HIEUH
xKAPYEOUNRIEUL
xMIEUM-NIEUN
zEUM-SSANGNIEUN
xSSANGMIEUM
xMIEUM-PIEUP-SIOS
zEUM-CIEUC
xPIEUP-TIKEUT
zEUP-RIEUL-PHIEUPH
zEUP-MIEUM
xSSANGPIEUP
xPIEUP-SIOS-TIKEUT
zEUP-CIEUC
zEUP-CHIEUCH
xSIOS-MIEUM
zOS-KAPYEOUNPIEUP
ySANGSIOS-KIYEOK
zANGSIOS-TIKEUT
yIOS-PANSIOS
zOS-CIEUC
zOS-CHIEUCH
zOS-THIEUTH
zOS-HIEUH
xPANSIOS-PIEUP
zNSIOS-KAPYEOUNPIEUP
xYESIEUNG-MIEUM
zSIEUNG-HIEUH
xCIEUC-PIEUP
zEUC-SSANGPIEUP
xSSANGCIEUC
xPHIEUPH-SIOS
zIEUPH-THIEUTH
2105gCJK COMPATIBILITY IDEOGRAPH-F900
zDEOGRAPH-F901
zDEOGRAPH-F902
zDEOGRAPH-F903
zDEOGRAPH-F904
zDEOGRAPH-F905
zDEOGRAPH-F906
zDEOGRAPH-F907
zDEOGRAPH-F908
zDEOGRAPH-F909
zDEOGRAPH-F90A
zDEOGRAPH-F90B
zDEOGRAPH-F90C
zDEOGRAPH-F90D
zDEOGRAPH-F90E
zDEOGRAPH-F90F
zDEOGRAPH-F910
zDEOGRAPH-F911
zDEOGRAPH-F912
zDEOGRAPH-F913
zDEOGRAPH-F914
zDEOGRAPH-F915
zDEOGRAPH-F916
zDEOGRAPH-F917
zDEOGRAPH-F918
zDEOGRAPH-F919
zDEOGRAPH-F91A
zDEOGRAPH-F91B
zDEOGRAPH-F91C
zDEOGRAPH-F91D
zDEOGRAPH-F91E
zDEOGRAPH-F91F
zDEOGRAPH-F920
zDEOGRAPH-F921
zDEOGRAPH-F922
zDEOGRAPH-F923
zDEOGRAPH-F924
zDEOGRAPH-F925
zDEOGRAPH-F926
zDEOGRAPH-F927
zDEOGRAPH-F928
zDEOGRAPH-F929
zDEOGRAPH-F92A
zDEOGRAPH-F92B
zDEOGRAPH-F92C
zDEOGRAPH-F92D
zDEOGRAPH-F92E
zDEOGRAPH-F92F
zDEOGRAPH-F930
zDEOGRAPH-F931
zDEOGRAPH-F932
zDEOGRAPH-F933
zDEOGRAPH-F934
zDEOGRAPH-F935
zDEOGRAPH-F936
zDEOGRAPH-F937
zDEOGRAPH-F938
zDEOGRAPH-F939
zDEOGRAPH-F93A
zDEOGRAPH-F93B
zDEOGRAPH-F93C
zDEOGRAPH-F93D
zDEOGRAPH-F93E
zDEOGRAPH-F93F
zDEOGRAPH-F940
zDEOGRAPH-F941
zDEOGRAPH-F942
zDEOGRAPH-F943
zDEOGRAPH-F944
zDEOGRAPH-F945
zDEOGRAPH-F946
zDEOGRAPH-F947
zDEOGRAPH-F948
zDEOGRAPH-F949
zDEOGRAPH-F94A
zDEOGRAPH-F94B
zDEOGRAPH-F94C
zDEOGRAPH-F94D
zDEOGRAPH-F94E
zDEOGRAPH-F94F
zDEOGRAPH-F950
zDEOGRAPH-F951
zDEOGRAPH-F952
zDEOGRAPH-F953
zDEOGRAPH-F954
zDEOGRAPH-F955
zDEOGRAPH-F956
zDEOGRAPH-F957
zDEOGRAPH-F958
zDEOGRAPH-F959
zDEOGRAPH-F95A
zDEOGRAPH-F95B
zDEOGRAPH-F95C
zDEOGRAPH-F95D
zDEOGRAPH-F95E
zDEOGRAPH-F95F
zDEOGRAPH-F960
zDEOGRAPH-F961
zDEOGRAPH-F962
zDEOGRAPH-F963
zDEOGRAPH-F964
zDEOGRAPH-F965
zDEOGRAPH-F966
zDEOGRAPH-F967
zDEOGRAPH-F968
zDEOGRAPH-F969
zDEOGRAPH-F96A
zDEOGRAPH-F96B
zDEOGRAPH-F96C
zDEOGRAPH-F96D
zDEOGRAPH-F96E
zDEOGRAPH-F96F
zDEOGRAPH-F970
zDEOGRAPH-F971
zDEOGRAPH-F972
zDEOGRAPH-F973
zDEOGRAPH-F974
zDEOGRAPH-F975
zDEOGRAPH-F976
zDEOGRAPH-F977
zDEOGRAPH-F978
zDEOGRAPH-F979
zDEOGRAPH-F97A
zDEOGRAPH-F97B
zDEOGRAPH-F97C
zDEOGRAPH-F97D
zDEOGRAPH-F97E
zDEOGRAPH-F97F
zDEOGRAPH-F980
zDEOGRAPH-F981
zDEOGRAPH-F982
zDEOGRAPH-F983
zDEOGRAPH-F984
zDEOGRAPH-F985
zDEOGRAPH-F986
zDEOGRAPH-F987
zDEOGRAPH-F988
zDEOGRAPH-F989
zDEOGRAPH-F98A
zDEOGRAPH-F98B
zDEOGRAPH-F98C
zDEOGRAPH-F98D
zDEOGRAPH-F98E
zDEOGRAPH-F98F
zDEOGRAPH-F990
zDEOGRAPH-F991
zDEOGRAPH-F992
zDEOGRAPH-F993
zDEOGRAPH-F994
zDEOGRAPH-F995
zDEOGRAPH-F996
zDEOGRAPH-F997
zDEOGRAPH-F998
zDEOGRAPH-F999
zDEOGRAPH-F99A
zDEOGRAPH-F99B
zDEOGRAPH-F99C
zDEOGRAPH-F99D
zDEOGRAPH-F99E
zDEOGRAPH-F99F
zDEOGRAPH-F9A0
zDEOGRAPH-F9A1
zDEOGRAPH-F9A2
zDEOGRAPH-F9A3
zDEOGRAPH-F9A4
zDEOGRAPH-F9A5
zDEOGRAPH-F9A6
zDEOGRAPH-F9A7
zDEOGRAPH-F9A8
zDEOGRAPH-F9A9
zDEOGRAPH-F9AA
zDEOGRAPH-F9AB
zDEOGRAPH-F9AC
zDEOGRAPH-F9AD
zDEOGRAPH-F9AE
zDEOGRAPH-F9AF
zDEOGRAPH-F9B0
zDEOGRAPH-F9B1
zDEOGRAPH-F9B2
zDEOGRAPH-F9B3
zDEOGRAPH-F9B4
zDEOGRAPH-F9B5
zDEOGRAPH-F9B6
zDEOGRAPH-F9B7
zDEOGRAPH-F9B8
zDEOGRAPH-F9B9
zDEOGRAPH-F9BA
zDEOGRAPH-F9BB
zDEOGRAPH-F9BC
zDEOGRAPH-F9BD
zDEOGRAPH-F9BE
zDEOGRAPH-F9BF
zDEOGRAPH-F9C0
zDEOGRAPH-F9C1
zDEOGRAPH-F9C2
zDEOGRAPH-F9C3
zDEOGRAPH-F9C4
zDEOGRAPH-F9C5
zDEOGRAPH-F9C6
zDEOGRAPH-F9C7
zDEOGRAPH-F9C8
zDEOGRAPH-F9C9
zDEOGRAPH-F9CA
zDEOGRAPH-F9CB
zDEOGRAPH-F9CC
zDEOGRAPH-F9CD
zDEOGRAPH-F9CE
zDEOGRAPH-F9CF
zDEOGRAPH-F9D0
zDEOGRAPH-F9D1
zDEOGRAPH-F9D2
zDEOGRAPH-F9D3
zDEOGRAPH-F9D4
zDEOGRAPH-F9D5
zDEOGRAPH-F9D6
zDEOGRAPH-F9D7
zDEOGRAPH-F9D8
zDEOGRAPH-F9D9
zDEOGRAPH-F9DA
zDEOGRAPH-F9DB
zDEOGRAPH-F9DC
zDEOGRAPH-F9DD
zDEOGRAPH-F9DE
zDEOGRAPH-F9DF
zDEOGRAPH-F9E0
zDEOGRAPH-F9E1
zDEOGRAPH-F9E2
zDEOGRAPH-F9E3
zDEOGRAPH-F9E4
zDEOGRAPH-F9E5
zDEOGRAPH-F9E6
zDEOGRAPH-F9E7
zDEOGRAPH-F9E8
zDEOGRAPH-F9E9
zDEOGRAPH-F9EA
zDEOGRAPH-F9EB
zDEOGRAPH-F9EC
zDEOGRAPH-F9ED
zDEOGRAPH-F9EE
zDEOGRAPH-F9EF
zDEOGRAPH-F9F0
zDEOGRAPH-F9F1
zDEOGRAPH-F9F2
zDEOGRAPH-F9F3
zDEOGRAPH-F9F4
zDEOGRAPH-F9F5
zDEOGRAPH-F9F6
zDEOGRAPH-F9F7
zDEOGRAPH-F9F8
zDEOGRAPH-F9F9
zDEOGRAPH-F9FA
zDEOGRAPH-F9FB
zDEOGRAPH-F9FC
zDEOGRAPH-F9FD
zDEOGRAPH-F9FE
zDEOGRAPH-F9FF
zDEOGRAPH-FA00
zDEOGRAPH-FA01
zDEOGRAPH-FA02
zDEOGRAPH-FA03
zDEOGRAPH-FA04
zDEOGRAPH-FA05
zDEOGRAPH-FA06
zDEOGRAPH-FA07
zDEOGRAPH-FA08
zDEOGRAPH-FA09
zDEOGRAPH-FA0A
zDEOGRAPH-FA0B
zDEOGRAPH-FA0C
zDEOGRAPH-FA0D
zDEOGRAPH-FA0E
zDEOGRAPH-FA0F
zDEOGRAPH-FA10
zDEOGRAPH-FA11
zDEOGRAPH-FA12
zDEOGRAPH-FA13
zDEOGRAPH-FA14
zDEOGRAPH-FA15
zDEOGRAPH-FA16
zDEOGRAPH-FA17
zDEOGRAPH-FA18
zDEOGRAPH-FA19
zDEOGRAPH-FA1A
zDEOGRAPH-FA1B
zDEOGRAPH-FA1C
zDEOGRAPH-FA1D
zDEOGRAPH-FA1E
zDEOGRAPH-FA1F
zDEOGRAPH-FA20
zDEOGRAPH-FA21
zDEOGRAPH-FA22
zDEOGRAPH-FA23
zDEOGRAPH-FA24
zDEOGRAPH-FA25
zDEOGRAPH-FA26
zDEOGRAPH-FA27
zDEOGRAPH-FA28
zDEOGRAPH-FA29
zDEOGRAPH-FA2A
zDEOGRAPH-FA2B
zDEOGRAPH-FA2C
zDEOGRAPH-FA2D
zDEOGRAPH-FA2E
zDEOGRAPH-FA2F
zDEOGRAPH-FA30
zDEOGRAPH-FA31
zDEOGRAPH-FA32
zDEOGRAPH-FA33
zDEOGRAPH-FA34
zDEOGRAPH-FA35
zDEOGRAPH-FA36
zDEOGRAPH-FA37
zDEOGRAPH-FA38
zDEOGRAPH-FA39
zDEOGRAPH-FA3A
zDEOGRAPH-FA3B
zDEOGRAPH-FA3C
zDEOGRAPH-FA3D
zDEOGRAPH-FA3E
zDEOGRAPH-FA3F
zDEOGRAPH-FA40
zDEOGRAPH-FA41
zDEOGRAPH-FA42
zDEOGRAPH-FA43
zDEOGRAPH-FA44
zDEOGRAPH-FA45
zDEOGRAPH-FA46
zDEOGRAPH-FA47
zDEOGRAPH-FA48
zDEOGRAPH-FA49
zDEOGRAPH-FA4A
zDEOGRAPH-FA4B
zDEOGRAPH-FA4C
zDEOGRAPH-FA4D
zDEOGRAPH-FA4E
zDEOGRAPH-FA4F
zDEOGRAPH-FA50
zDEOGRAPH-FA51
zDEOGRAPH-FA52
zDEOGRAPH-FA53
zDEOGRAPH-FA54
zDEOGRAPH-FA55
zDEOGRAPH-FA56
zDEOGRAPH-FA57
zDEOGRAPH-FA58
zDEOGRAPH-FA59
zDEOGRAPH-FA5A
zDEOGRAPH-FA5B
zDEOGRAPH-FA5C
zDEOGRAPH-FA5D
zDEOGRAPH-FA5E
zDEOGRAPH-FA5F
zDEOGRAPH-FA60
zDEOGRAPH-FA61
zDEOGRAPH-FA62
zDEOGRAPH-FA63
zDEOGRAPH-FA64
zDEOGRAPH-FA65
zDEOGRAPH-FA66
zDEOGRAPH-FA67
zDEOGRAPH-FA68
zDEOGRAPH-FA69
zDEOGRAPH-FA6A
zDEOGRAPH-FA6B
zDEOGRAPH-FA6C
zDEOGRAPH-FA6D
3zDEOGRAPH-FA70
zDEOGRAPH-FA71
zDEOGRAPH-FA72
zDEOGRAPH-FA73
zDEOGRAPH-FA74
zDEOGRAPH-FA75
zDEOGRAPH-FA76
zDEOGRAPH-FA77
zDEOGRAPH-FA78
zDEOGRAPH-FA79
zDEOGRAPH-FA7A
zDEOGRAPH-FA7B
zDEOGRAPH-FA7C
zDEOGRAPH-FA7D
zDEOGRAPH-FA7E
zDEOGRAPH-FA7F
zDEOGRAPH-FA80
zDEOGRAPH-FA81
zDEOGRAPH-FA82
zDEOGRAPH-FA83
zDEOGRAPH-FA84
zDEOGRAPH-FA85
zDEOGRAPH-FA86
zDEOGRAPH-FA87
zDEOGRAPH-FA88
zDEOGRAPH-FA89
zDEOGRAPH-FA8A
zDEOGRAPH-FA8B
zDEOGRAPH-FA8C
zDEOGRAPH-FA8D
zDEOGRAPH-FA8E
zDEOGRAPH-FA8F
zDEOGRAPH-FA90
zDEOGRAPH-FA91
zDEOGRAPH-FA92
zDEOGRAPH-FA93
zDEOGRAPH-FA94
zDEOGRAPH-FA95
zDEOGRAPH-FA96
zDEOGRAPH-FA97
zDEOGRAPH-FA98
zDEOGRAPH-FA99
zDEOGRAPH-FA9A
zDEOGRAPH-FA9B
zDEOGRAPH-FA9C
zDEOGRAPH-FA9D
zDEOGRAPH-FA9E
zDEOGRAPH-FA9F
zDEOGRAPH-FAA0
zDEOGRAPH-FAA1
zDEOGRAPH-FAA2
zDEOGRAPH-FAA3
zDEOGRAPH-FAA4
zDEOGRAPH-FAA5
zDEOGRAPH-FAA6
zDEOGRAPH-FAA7
zDEOGRAPH-FAA8
zDEOGRAPH-FAA9
zDEOGRAPH-FAAA
zDEOGRAPH-FAAB
zDEOGRAPH-FAAC
zDEOGRAPH-FAAD
zDEOGRAPH-FAAE
zDEOGRAPH-FAAF
zDEOGRAPH-FAB0
zDEOGRAPH-FAB1
zDEOGRAPH-FAB2
zDEOGRAPH-FAB3
zDEOGRAPH-FAB4
zDEOGRAPH-FAB5
zDEOGRAPH-FAB6
zDEOGRAPH-FAB7
zDEOGRAPH-FAB8
zDEOGRAPH-FAB9
zDEOGRAPH-FABA
zDEOGRAPH-FABB
zDEOGRAPH-FABC
zDEOGRAPH-FABD
zDEOGRAPH-FABE
zDEOGRAPH-FABF
zDEOGRAPH-FAC0
zDEOGRAPH-FAC1
zDEOGRAPH-FAC2
zDEOGRAPH-FAC3
zDEOGRAPH-FAC4
zDEOGRAPH-FAC5
zDEOGRAPH-FAC6
zDEOGRAPH-FAC7
zDEOGRAPH-FAC8
zDEOGRAPH-FAC9
zDEOGRAPH-FACA
zDEOGRAPH-FACB
zDEOGRAPH-FACC
zDEOGRAPH-FACD
zDEOGRAPH-FACE
zDEOGRAPH-FACF
zDEOGRAPH-FAD0
zDEOGRAPH-FAD1
zDEOGRAPH-FAD2
zDEOGRAPH-FAD3
zDEOGRAPH-FAD4
zDEOGRAPH-FAD5
zDEOGRAPH-FAD6
zDEOGRAPH-FAD7
zDEOGRAPH-FAD8
zDEOGRAPH-FAD9
27gLATIN SMALL LIGATURE FF
zE FI
zE FL
zE FFI
zE FFL
zE LONG S T
zE ST
dgARMENIAN SMALL LIGATURE MEN NOW
zTURE MEN ECH
zTURE MEN INI
zTURE VEW NOW
zTURE MEN XEH
6gHEBREW LETTER YOD WITH HIRIQ
nPOINT JUDEO-SPANISH VARIKA
nLIGATURE YIDDISH YOD YOD PATAH
oETTER ALTERNATIVE AYIN
uWIDE ALEF
zDALET
zHE
zKAF
zLAMED
zFINAL MEM
zRESH
zTAV
uALTERNATIVE PLUS SIGN
uSHIN WITH SHIN DOT
zWITH SIN DOT
zWITH DAGESH AND SHIN DOT
zWITH DAGESH AND SIN DOT
uALEF WITH PATAH
zWITH QAMATS
zWITH MAPIQ
uBET WITH DAGESH
uGIMEL WITH DAGESH
uDALET WITH DAGESH
uHE WITH MAPIQ
uVAV WITH DAGESH
uZAYIN WITH DAGESH
2uTET WITH DAGESH
uYOD WITH DAGESH
uFINAL KAF WITH DAGESH
uKAF WITH DAGESH
uLAMED WITH DAGESH
2uMEM WITH DAGESH
2uNUN WITH DAGESH
uSAMEKH WITH DAGESH
2uFINAL PE WITH DAGESH
uPE WITH DAGESH
2uTSADI WITH DAGESH
uQOF WITH DAGESH
uRESH WITH DAGESH
uSHIN WITH DAGESH
uTAV WITH DAGESH
uVAV WITH HOLAM
uBET WITH RAFE
uKAF WITH RAFE
uPE WITH RAFE
oIGATURE ALEF LAMED
gARABIC LETTER ALEF WASLA ISOLATED FORM
zWASLA FINAL FORM
uBEEH ISOLATED FORM
zFINAL FORM
zINITIAL FORM
zMEDIAL FORM
uPEH ISOLATED FORM
yFINAL FORM
yINITIAL FORM
yMEDIAL FORM
uBEHEH ISOLATED FORM
z FINAL FORM
z INITIAL FORM
z MEDIAL FORM
uTTEHEH ISOLATED FORM
zH FINAL FORM
zH INITIAL FORM
zH MEDIAL FORM
vEHEH ISOLATED FORM
z FINAL FORM
z INITIAL FORM
z MEDIAL FORM
vTEH ISOLATED FORM
zFINAL FORM
zINITIAL FORM
zMEDIAL FORM
uVEH ISOLATED FORM
yFINAL FORM
yINITIAL FORM
yMEDIAL FORM
uPEHEH ISOLATED FORM
z FINAL FORM
z INITIAL FORM
z MEDIAL FORM
uDYEH ISOLATED FORM
zFINAL FORM
zINITIAL FORM
zMEDIAL FORM
uNYEH ISOLATED FORM
zFINAL FORM
zINITIAL FORM
zMEDIAL FORM
uTCHEH ISOLATED FORM
z FINAL FORM
z INITIAL FORM
z MEDIAL FORM
zEH ISOLATED FORM
zEH FINAL FORM
zEH INITIAL FORM
zEH MEDIAL FORM
uDDAHAL ISOLATED FORM
zL FINAL FORM
vAHAL ISOLATED FORM
z FINAL FORM
vUL ISOLATED FORM
yFINAL FORM
vDAL ISOLATED FORM
zFINAL FORM
uJEH ISOLATED FORM
yFINAL FORM
uRREH ISOLATED FORM
zFINAL FORM
uKEHEH ISOLATED FORM
z FINAL FORM
z INITIAL FORM
z MEDIAL FORM
uGAF ISOLATED FORM
yFINAL FORM
yINITIAL FORM
yMEDIAL FORM
vUEH ISOLATED FORM
zFINAL FORM
zINITIAL FORM
zMEDIAL FORM
uNGOEH ISOLATED FORM
z FINAL FORM
z INITIAL FORM
z MEDIAL FORM
vOON GHUNNA ISOLATED FORM
zGHUNNA FINAL FORM
uRNOON ISOLATED FORM
z FINAL FORM
z INITIAL FORM
z MEDIAL FORM
uHEH WITH YEH ABOVE ISOLATED FORM
zITH YEH ABOVE FINAL FORM
yGOAL ISOLATED FORM
zOAL FINAL FORM
zOAL INITIAL FORM
zOAL MEDIAL FORM
yDOACHASHMEE ISOLATED FORM
zOACHASHMEE FINAL FORM
zOACHASHMEE INITIAL FORM
zOACHASHMEE MEDIAL FORM
uYEH BARREE ISOLATED FORM
zARREE FINAL FORM
zARREE WITH HAMZA ABOVE ISOLATED FORM
zARREE WITH HAMZA ABOVE FINAL FORM
nSYMBOL DOT ABOVE
yBELOW
uTWO DOTS ABOVE
zOTS BELOW
vHREE DOTS ABOVE
z DOTS BELOW
z DOTS POINTING DOWNWARDS ABOVE
z DOTS POINTING DOWNWARDS BELOW
uFOUR DOTS ABOVE
zDOTS BELOW
uDOUBLE VERTICAL BAR BELOW
uTWO DOTS VERTICALLY ABOVE
zOTS VERTICALLY BELOW
uRING
uSMALL TAH ABOVE
z TAH BELOW
uWASLA ABOVE
11nLETTER NG ISOLATED FORM
xFINAL FORM
xINITIAL FORM
xMEDIAL FORM
uU ISOLATED FORM
wFINAL FORM
uOE ISOLATED FORM
xFINAL FORM
uYU ISOLATED FORM
xFINAL FORM
uU WITH HAMZA ABOVE ISOLATED FORM
uVE ISOLATED FORM
xFINAL FORM
uKIRGHIZ OE ISOLATED FORM
zIZ OE FINAL FORM
zIZ YU ISOLATED FORM
zIZ YU FINAL FORM
uE ISOLATED FORM
wFINAL FORM
wINITIAL FORM
wMEDIAL FORM
uUIGHUR KAZAKH KIRGHIZ ALEF MAKSURA INITIAL FORM
zR KAZAKH KIRGHIZ ALEF MAKSURA MEDIAL FORM
oIGATURE YEH WITH HAMZA ABOVE WITH ALEF ISOLATED FORM
z WITH HAMZA ABOVE WITH ALEF FINAL FORM
z WITH HAMZA ABOVE WITH AE ISOLATED FORM
z WITH HAMZA ABOVE WITH AE FINAL FORM
z WITH HAMZA ABOVE WITH WAW ISOLATED FORM
z WITH HAMZA ABOVE WITH WAW FINAL FORM
z WITH HAMZA ABOVE WITH U ISOLATED FORM
z WITH HAMZA ABOVE WITH U FINAL FORM
z WITH HAMZA ABOVE WITH OE ISOLATED FORM
z WITH HAMZA ABOVE WITH OE FINAL FORM
z WITH HAMZA ABOVE WITH YU ISOLATED FORM
z WITH HAMZA ABOVE WITH YU FINAL FORM
z WITH HAMZA ABOVE WITH E ISOLATED FORM
z WITH HAMZA ABOVE WITH E FINAL FORM
z WITH HAMZA ABOVE WITH E INITIAL FORM
wUIGHUR KIRGHIZ YEH WITH HAMZA ABOVE WITH ALEF MAKSURA ISOLATED FORM
zHUR KIRGHIZ YEH WITH HAMZA ABOVE WITH ALEF MAKSURA FINAL FORM
zHUR KIRGHIZ YEH WITH HAMZA ABOVE WITH ALEF MAKSURA INITIAL FORM
oETTER FARSI YEH ISOLATED FORM
z YEH FINAL FORM
z YEH INITIAL FORM
z YEH MEDIAL FORM
oIGATURE YEH WITH HAMZA ABOVE WITH JEEM ISOLATED FORM
z WITH HAMZA ABOVE WITH HAH ISOLATED FORM
z WITH HAMZA ABOVE WITH MEEM ISOLATED FORM
z WITH HAMZA ABOVE WITH ALEF MAKSURA ISOLATED FORM
z WITH HAMZA ABOVE WITH YEH ISOLATED FORM
wBEH WITH JEEM ISOLATED FORM
z WITH HAH ISOLATED FORM
z WITH KHAH ISOLATED FORM
z WITH MEEM ISOLATED FORM
z WITH ALEF MAKSURA ISOLATED FORM
z WITH YEH ISOLATED FORM
wTEH WITH JEEM ISOLATED FORM
z WITH HAH ISOLATED FORM
z WITH KHAH ISOLATED FORM
z WITH MEEM ISOLATED FORM
z WITH ALEF MAKSURA ISOLATED FORM
z WITH YEH ISOLATED FORM
xHEH WITH JEEM ISOLATED FORM
zH WITH MEEM ISOLATED FORM
zH WITH ALEF MAKSURA ISOLATED FORM
zH WITH YEH ISOLATED FORM
wJEEM WITH HAH ISOLATED FORM
zM WITH MEEM ISOLATED FORM
wHAH WITH JEEM ISOLATED FORM
z WITH MEEM ISOLATED FORM
wKHAH WITH JEEM ISOLATED FORM
zH WITH HAH ISOLATED FORM
zH WITH MEEM ISOLATED FORM
wSEEN WITH JEEM ISOLATED FORM
zN WITH HAH ISOLATED FORM
zN WITH KHAH ISOLATED FORM
zN WITH MEEM ISOLATED FORM
xAD WITH HAH ISOLATED FORM
z WITH MEEM ISOLATED FORM
wDAD WITH JEEM ISOLATED FORM
z WITH HAH ISOLATED FORM
z WITH KHAH ISOLATED FORM
z WITH MEEM ISOLATED FORM
wTAH WITH HAH ISOLATED FORM
z WITH MEEM ISOLATED FORM
wZAH WITH MEEM ISOLATED FORM
wAIN WITH JEEM ISOLATED FORM
z WITH MEEM ISOLATED FORM
wGHAIN WITH JEEM ISOLATED FORM
zIN WITH MEEM ISOLATED FORM
wFEH WITH JEEM ISOLATED FORM
z WITH HAH ISOLATED FORM
z WITH KHAH ISOLATED FORM
z WITH MEEM ISOLATED FORM
z WITH ALEF MAKSURA ISOLATED FORM
z WITH YEH ISOLATED FORM
wQAF WITH HAH ISOLATED FORM
z WITH MEEM ISOLATED FORM
z WITH ALEF MAKSURA ISOLATED FORM
z WITH YEH ISOLATED FORM
wKAF WITH ALEF ISOLATED FORM
z WITH JEEM ISOLATED FORM
z WITH HAH ISOLATED FORM
z WITH KHAH ISOLATED FORM
z WITH LAM ISOLATED FORM
z WITH MEEM ISOLATED FORM
z WITH ALEF MAKSURA ISOLATED FORM
z WITH YEH ISOLATED FORM
wLAM WITH JEEM ISOLATED FORM
z WITH HAH ISOLATED FORM
z WITH KHAH ISOLATED FORM
z WITH MEEM ISOLATED FORM
z WITH ALEF MAKSURA ISOLATED FORM
z WITH YEH ISOLATED FORM
wMEEM WITH JEEM ISOLATED FORM
zM WITH HAH ISOLATED FORM
zM WITH KHAH ISOLATED FORM
zM WITH MEEM ISOLATED FORM
zM WITH ALEF MAKSURA ISOLATED FORM
zM WITH YEH ISOLATED FORM
wNOON WITH JEEM ISOLATED FORM
zN WITH HAH ISOLATED FORM
zN WITH KHAH ISOLATED FORM
zN WITH MEEM ISOLATED FORM
zN WITH ALEF MAKSURA ISOLATED FORM
zN WITH YEH ISOLATED FORM
wHEH WITH JEEM ISOLATED FORM
z WITH MEEM ISOLATED FORM
z WITH ALEF MAKSURA ISOLATED FORM
z WITH YEH ISOLATED FORM
wYEH WITH JEEM ISOLATED FORM
z WITH HAH ISOLATED FORM
z WITH KHAH ISOLATED FORM
z WITH MEEM ISOLATED FORM
z WITH ALEF MAKSURA ISOLATED FORM
z WITH YEH ISOLATED FORM
wTHAL WITH SUPERSCRIPT ALEF ISOLATED FORM
wREH WITH SUPERSCRIPT ALEF ISOLATED FORM
wALEF MAKSURA WITH SUPERSCRIPT ALEF ISOLATED FORM
wSHADDA WITH DAMMATAN ISOLATED FORM
zDDA WITH KASRATAN ISOLATED FORM
zDDA WITH FATHA ISOLATED FORM
zDDA WITH DAMMA ISOLATED FORM
zDDA WITH KASRA ISOLATED FORM
zDDA WITH SUPERSCRIPT ALEF ISOLATED FORM
wYEH WITH HAMZA ABOVE WITH REH FINAL FORM
z WITH HAMZA ABOVE WITH ZAIN FINAL FORM
z WITH HAMZA ABOVE WITH MEEM FINAL FORM
z WITH HAMZA ABOVE WITH NOON FINAL FORM
z WITH HAMZA ABOVE WITH ALEF MAKSURA FINAL FORM
z WITH HAMZA ABOVE WITH YEH FINAL FORM
wBEH WITH REH FINAL FORM
z WITH ZAIN FINAL FORM
z WITH MEEM FINAL FORM
z WITH NOON FINAL FORM
z WITH ALEF MAKSURA FINAL FORM
z WITH YEH FINAL FORM
wTEH WITH REH FINAL FORM
z WITH ZAIN FINAL FORM
z WITH MEEM FINAL FORM
z WITH NOON FINAL FORM
z WITH ALEF MAKSURA FINAL FORM
z WITH YEH FINAL FORM
xHEH WITH REH FINAL FORM
zH WITH ZAIN FINAL FORM
zH WITH MEEM FINAL FORM
zH WITH NOON FINAL FORM
zH WITH ALEF MAKSURA FINAL FORM
zH WITH YEH FINAL FORM
wFEH WITH ALEF MAKSURA FINAL FORM
z WITH YEH FINAL FORM
wQAF WITH ALEF MAKSURA FINAL FORM
z WITH YEH FINAL FORM
wKAF WITH ALEF FINAL FORM
z WITH LAM FINAL FORM
z WITH MEEM FINAL FORM
z WITH ALEF MAKSURA FINAL FORM
z WITH YEH FINAL FORM
wLAM WITH MEEM FINAL FORM
z WITH ALEF MAKSURA FINAL FORM
z WITH YEH FINAL FORM
wMEEM WITH ALEF FINAL FORM
zM WITH MEEM FINAL FORM
wNOON WITH REH FINAL FORM
zN WITH ZAIN FINAL FORM
zN WITH MEEM FINAL FORM
zN WITH NOON FINAL FORM
zN WITH ALEF MAKSURA FINAL FORM
zN WITH YEH FINAL FORM
wALEF MAKSURA WITH SUPERSCRIPT ALEF FINAL FORM
wYEH WITH REH FINAL FORM
z WITH ZAIN FINAL FORM
z WITH MEEM FINAL FORM
z WITH NOON FINAL FORM
z WITH ALEF MAKSURA FINAL FORM
z WITH YEH FINAL FORM
z WITH HAMZA ABOVE WITH JEEM INITIAL FORM
z WITH HAMZA ABOVE WITH HAH INITIAL FORM
z WITH HAMZA ABOVE WITH KHAH INITIAL FORM
z WITH HAMZA ABOVE WITH MEEM INITIAL FORM
z WITH HAMZA ABOVE WITH HEH INITIAL FORM
wBEH WITH JEEM INITIAL FORM
z WITH HAH INITIAL FORM
z WITH KHAH INITIAL FORM
z WITH MEEM INITIAL FORM
z WITH HEH INITIAL FORM
wTEH WITH JEEM INITIAL FORM
z WITH HAH INITIAL FORM
z WITH KHAH INITIAL FORM
z WITH MEEM INITIAL FORM
z WITH HEH INITIAL FORM
xHEH WITH MEEM INITIAL FORM
wJEEM WITH HAH INITIAL FORM
zM WITH MEEM INITIAL FORM
wHAH WITH JEEM INITIAL FORM
z WITH MEEM INITIAL FORM
wKHAH WITH JEEM INITIAL FORM
zH WITH MEEM INITIAL FORM
wSEEN WITH JEEM INITIAL FORM
zN WITH HAH INITIAL FORM
zN WITH KHAH INITIAL FORM
zN WITH MEEM INITIAL FORM
xAD WITH HAH INITIAL FORM
z WITH KHAH INITIAL FORM
z WITH MEEM INITIAL FORM
wDAD WITH JEEM INITIAL FORM
z WITH HAH INITIAL FORM
z WITH KHAH INITIAL FORM
z WITH MEEM INITIAL FORM
wTAH WITH HAH INITIAL FORM
wZAH WITH MEEM INITIAL FORM
wAIN WITH JEEM INITIAL FORM
z WITH MEEM INITIAL FORM
wGHAIN WITH JEEM INITIAL FORM
zIN WITH MEEM INITIAL FORM
wFEH WITH JEEM INITIAL FORM
z WITH HAH INITIAL FORM
z WITH KHAH INITIAL FORM
z WITH MEEM INITIAL FORM
wQAF WITH HAH INITIAL FORM
z WITH MEEM INITIAL FORM
wKAF WITH JEEM INITIAL FORM
z WITH HAH INITIAL FORM
z WITH KHAH INITIAL FORM
z WITH LAM INITIAL FORM
z WITH MEEM INITIAL FORM
wLAM WITH JEEM INITIAL FORM
z WITH HAH INITIAL FORM
z WITH KHAH INITIAL FORM
z WITH MEEM INITIAL FORM
z WITH HEH INITIAL FORM
wMEEM WITH JEEM INITIAL FORM
zM WITH HAH INITIAL FORM
zM WITH KHAH INITIAL FORM
zM WITH MEEM INITIAL FORM
wNOON WITH JEEM INITIAL FORM
zN WITH HAH INITIAL FORM
zN WITH KHAH INITIAL FORM
zN WITH MEEM INITIAL FORM
zN WITH HEH INITIAL FORM
wHEH WITH JEEM INITIAL FORM
z WITH MEEM INITIAL FORM
z WITH SUPERSCRIPT ALEF INITIAL FORM
wYEH WITH JEEM INITIAL FORM
z WITH HAH INITIAL FORM
z WITH KHAH INITIAL FORM
z WITH MEEM INITIAL FORM
z WITH HEH INITIAL FORM
z WITH HAMZA ABOVE WITH MEEM MEDIAL FORM
z WITH HAMZA ABOVE WITH HEH MEDIAL FORM
wBEH WITH MEEM MEDIAL FORM
z WITH HEH MEDIAL FORM
wTEH WITH MEEM MEDIAL FORM
z WITH HEH MEDIAL FORM
xHEH WITH MEEM MEDIAL FORM
zH WITH HEH MEDIAL FORM
wSEEN WITH MEEM MEDIAL FORM
zN WITH HEH MEDIAL FORM
xHEEN WITH MEEM MEDIAL FORM
zEN WITH HEH MEDIAL FORM
wKAF WITH LAM MEDIAL FORM
z WITH MEEM MEDIAL FORM
wLAM WITH MEEM MEDIAL FORM
wNOON WITH MEEM MEDIAL FORM
zN WITH HEH MEDIAL FORM
wYEH WITH MEEM MEDIAL FORM
z WITH HEH MEDIAL FORM
wSHADDA WITH FATHA MEDIAL FORM
zDDA WITH DAMMA MEDIAL FORM
zDDA WITH KASRA MEDIAL FORM
wTAH WITH ALEF MAKSURA ISOLATED FORM
z WITH YEH ISOLATED FORM
wAIN WITH ALEF MAKSURA ISOLATED FORM
z WITH YEH ISOLATED FORM
wGHAIN WITH ALEF MAKSURA ISOLATED FORM
zIN WITH YEH ISOLATED FORM
wSEEN WITH ALEF MAKSURA ISOLATED FORM
zN WITH YEH ISOLATED FORM
xHEEN WITH ALEF MAKSURA ISOLATED FORM
zEN WITH YEH ISOLATED FORM
wHAH WITH ALEF MAKSURA ISOLATED FORM
z WITH YEH ISOLATED FORM
wJEEM WITH ALEF MAKSURA ISOLATED FORM
zM WITH YEH ISOLATED FORM
wKHAH WITH ALEF MAKSURA ISOLATED FORM
zH WITH YEH ISOLATED FORM
wSAD WITH ALEF MAKSURA ISOLATED FORM
z WITH YEH ISOLATED FORM
wDAD WITH ALEF MAKSURA ISOLATED FORM
z WITH YEH ISOLATED FORM
wSHEEN WITH JEEM ISOLATED FORM
zEN WITH HAH ISOLATED FORM
zEN WITH KHAH ISOLATED FORM
zEN WITH MEEM ISOLATED FORM
zEN WITH REH ISOLATED FORM
xEEN WITH REH ISOLATED FORM
xAD WITH REH ISOLATED FORM
wDAD WITH REH ISOLATED FORM
wTAH WITH ALEF MAKSURA FINAL FORM
z WITH YEH FINAL FORM
wAIN WITH ALEF MAKSURA FINAL FORM
z WITH YEH FINAL FORM
wGHAIN WITH ALEF MAKSURA FINAL FORM
zIN WITH YEH FINAL FORM
wSEEN WITH ALEF MAKSURA FINAL FORM
zN WITH YEH FINAL FORM
xHEEN WITH ALEF MAKSURA FINAL FORM
zEN WITH YEH FINAL FORM
wHAH WITH ALEF MAKSURA FINAL FORM
z WITH YEH FINAL FORM
wJEEM WITH ALEF MAKSURA FINAL FORM
zM WITH YEH FINAL FORM
wKHAH WITH ALEF MAKSURA FINAL FORM
zH WITH YEH FINAL FORM
wSAD WITH ALEF MAKSURA FINAL FORM
z WITH YEH FINAL FORM
wDAD WITH ALEF MAKSURA FINAL FORM
z WITH YEH FINAL FORM
wSHEEN WITH JEEM FINAL FORM
zEN WITH HAH FINAL FORM
zEN WITH KHAH FINAL FORM
zEN WITH MEEM FINAL FORM
zEN WITH REH FINAL FORM
xEEN WITH REH FINAL FORM
xAD WITH REH FINAL FORM
wDAD WITH REH FINAL FORM
wSHEEN WITH JEEM INITIAL FORM
zEN WITH HAH INITIAL FORM
zEN WITH KHAH INITIAL FORM
zEN WITH MEEM INITIAL FORM
xEEN WITH HEH INITIAL FORM
xHEEN WITH HEH INITIAL FORM
wTAH WITH MEEM INITIAL FORM
wSEEN WITH JEEM MEDIAL FORM
zN WITH HAH MEDIAL FORM
zN WITH KHAH MEDIAL FORM
xHEEN WITH JEEM MEDIAL FORM
zEN WITH HAH MEDIAL FORM
zEN WITH KHAH MEDIAL FORM
wTAH WITH MEEM MEDIAL FORM
wZAH WITH MEEM MEDIAL FORM
wALEF WITH FATHATAN FINAL FORM
zF WITH FATHATAN ISOLATED FORM
gORNATE LEFT PARENTHESIS
nRIGHT PARENTHESIS
gARABIC LIGATURE RAHIMAHU ALLAAH
yDI ALLAAHU ANH
zI ALLAAHU ANHAA
zI ALLAAHU ANHUM
zI ALLAAHU ANHUMAA
zI ALLAAHU ANHUNNA
wSALLALLAAHU ALAYHI WA-AALIH
wALAYHI AS-SALAAM
zYHIM AS-SALAAM
zYHIMAA AS-SALAAM
zYHI AS-SALAATU WAS-SALAAM
wQUDDISA SIRRAH
wSALLALLAHU ALAYHI WAAALIHEE WA-SALLAM
wALAYHAA AS-SALAAM
wTABAARAKA WA-TAAALAA
wRAHIMAHUM ALLAAH
wTEH WITH JEEM WITH MEEM INITIAL FORM
z WITH HAH WITH JEEM FINAL FORM
z WITH HAH WITH JEEM INITIAL FORM
z WITH HAH WITH MEEM INITIAL FORM
z WITH KHAH WITH MEEM INITIAL FORM
z WITH MEEM WITH JEEM INITIAL FORM
z WITH MEEM WITH HAH INITIAL FORM
z WITH MEEM WITH KHAH INITIAL FORM
wJEEM WITH MEEM WITH HAH FINAL FORM
zM WITH MEEM WITH HAH INITIAL FORM
wHAH WITH MEEM WITH YEH FINAL FORM
z WITH MEEM WITH ALEF MAKSURA FINAL FORM
wSEEN WITH HAH WITH JEEM INITIAL FORM
zN WITH JEEM WITH HAH INITIAL FORM
zN WITH JEEM WITH ALEF MAKSURA FINAL FORM
zN WITH MEEM WITH HAH FINAL FORM
zN WITH MEEM WITH HAH INITIAL FORM
zN WITH MEEM WITH JEEM INITIAL FORM
zN WITH MEEM WITH MEEM FINAL FORM
zN WITH MEEM WITH MEEM INITIAL FORM
xAD WITH HAH WITH HAH FINAL FORM
z WITH HAH WITH HAH INITIAL FORM
z WITH MEEM WITH MEEM FINAL FORM
xHEEN WITH HAH WITH MEEM FINAL FORM
zEN WITH HAH WITH MEEM INITIAL FORM
zEN WITH JEEM WITH YEH FINAL FORM
zEN WITH MEEM WITH KHAH FINAL FORM
zEN WITH MEEM WITH KHAH INITIAL FORM
zEN WITH MEEM WITH MEEM FINAL FORM
zEN WITH MEEM WITH MEEM INITIAL FORM
wDAD WITH HAH WITH ALEF MAKSURA FINAL FORM
z WITH KHAH WITH MEEM FINAL FORM
z WITH KHAH WITH MEEM INITIAL FORM
wTAH WITH MEEM WITH HAH FINAL FORM
z WITH MEEM WITH HAH INITIAL FORM
z WITH MEEM WITH MEEM INITIAL FORM
z WITH MEEM WITH YEH FINAL FORM
wAIN WITH JEEM WITH MEEM FINAL FORM
z WITH MEEM WITH MEEM FINAL FORM
z WITH MEEM WITH MEEM INITIAL FORM
z WITH MEEM WITH ALEF MAKSURA FINAL FORM
wGHAIN WITH MEEM WITH MEEM FINAL FORM
zIN WITH MEEM WITH YEH FINAL FORM
zIN WITH MEEM WITH ALEF MAKSURA FINAL FORM
wFEH WITH KHAH WITH MEEM FINAL FORM
z WITH KHAH WITH MEEM INITIAL FORM
wQAF WITH MEEM WITH HAH FINAL FORM
z WITH MEEM WITH MEEM FINAL FORM
wLAM WITH HAH WITH MEEM FINAL FORM
z WITH HAH WITH YEH FINAL FORM
z WITH HAH WITH ALEF MAKSURA FINAL FORM
z WITH JEEM WITH JEEM INITIAL FORM
z WITH JEEM WITH JEEM FINAL FORM
z WITH KHAH WITH MEEM FINAL FORM
z WITH KHAH WITH MEEM INITIAL FORM
z WITH MEEM WITH HAH FINAL FORM
z WITH MEEM WITH HAH INITIAL FORM
wMEEM WITH HAH WITH JEEM INITIAL FORM
zM WITH HAH WITH MEEM INITIAL FORM
zM WITH HAH WITH YEH FINAL FORM
zM WITH JEEM WITH HAH INITIAL FORM
zM WITH JEEM WITH MEEM INITIAL FORM
zM WITH KHAH WITH JEEM INITIAL FORM
zM WITH KHAH WITH MEEM INITIAL FORM
3zM WITH JEEM WITH KHAH INITIAL FORM
wHEH WITH MEEM WITH JEEM INITIAL FORM
z WITH MEEM WITH MEEM INITIAL FORM
wNOON WITH HAH WITH MEEM INITIAL FORM
zN WITH HAH WITH ALEF MAKSURA FINAL FORM
zN WITH JEEM WITH MEEM FINAL FORM
zN WITH JEEM WITH MEEM INITIAL FORM
zN WITH JEEM WITH ALEF MAKSURA FINAL FORM
zN WITH MEEM WITH YEH FINAL FORM
zN WITH MEEM WITH ALEF MAKSURA FINAL FORM
wYEH WITH MEEM WITH MEEM FINAL FORM
z WITH MEEM WITH MEEM INITIAL FORM
wBEH WITH KHAH WITH YEH FINAL FORM
wTEH WITH JEEM WITH YEH FINAL FORM
z WITH JEEM WITH ALEF MAKSURA FINAL FORM
z WITH KHAH WITH YEH FINAL FORM
z WITH KHAH WITH ALEF MAKSURA FINAL FORM
z WITH MEEM WITH YEH FINAL FORM
z WITH MEEM WITH ALEF MAKSURA FINAL FORM
wJEEM WITH MEEM WITH YEH FINAL FORM
zM WITH HAH WITH ALEF MAKSURA FINAL FORM
zM WITH MEEM WITH ALEF MAKSURA FINAL FORM
wSEEN WITH KHAH WITH ALEF MAKSURA FINAL FORM
xAD WITH HAH WITH YEH FINAL FORM
xHEEN WITH HAH WITH YEH FINAL FORM
wDAD WITH HAH WITH YEH FINAL FORM
wLAM WITH JEEM WITH YEH FINAL FORM
z WITH MEEM WITH YEH FINAL FORM
wYEH WITH HAH WITH YEH FINAL FORM
z WITH JEEM WITH YEH FINAL FORM
z WITH MEEM WITH YEH FINAL FORM
wMEEM WITH MEEM WITH YEH FINAL FORM
wQAF WITH MEEM WITH YEH FINAL FORM
wNOON WITH HAH WITH YEH FINAL FORM
wQAF WITH MEEM WITH HAH INITIAL FORM
wLAM WITH HAH WITH MEEM INITIAL FORM
wAIN WITH MEEM WITH YEH FINAL FORM
wKAF WITH MEEM WITH YEH FINAL FORM
wNOON WITH JEEM WITH HAH INITIAL FORM
wMEEM WITH KHAH WITH YEH FINAL FORM
wLAM WITH JEEM WITH MEEM INITIAL FORM
wKAF WITH MEEM WITH MEEM FINAL FORM
wLAM WITH JEEM WITH MEEM FINAL FORM
wNOON WITH JEEM WITH HAH FINAL FORM
wJEEM WITH HAH WITH YEH FINAL FORM
wHAH WITH JEEM WITH YEH FINAL FORM
wMEEM WITH JEEM WITH YEH FINAL FORM
wFEH WITH MEEM WITH YEH FINAL FORM
wBEH WITH HAH WITH YEH FINAL FORM
wKAF WITH MEEM WITH MEEM INITIAL FORM
wAIN WITH JEEM WITH MEEM INITIAL FORM
wSAD WITH MEEM WITH MEEM INITIAL FORM
xEEN WITH KHAH WITH YEH FINAL FORM
wNOON WITH JEEM WITH YEH FINAL FORM
8wSALAAMUHU ALAYNAA
21zLA USED AS KORANIC STOP SIGN ISOLATED FORM
wQALA USED AS KORANIC STOP SIGN ISOLATED FORM
wALLAH ISOLATED FORM
xKBAR ISOLATED FORM
wMOHAMMAD ISOLATED FORM
wSALAM ISOLATED FORM
wRASOUL ISOLATED FORM
wALAYHE ISOLATED FORM
wWASALLAM ISOLATED FORM
wSALLA ISOLATED FORM
zLALLAHOU ALAYHE WASALLAM
wJALLAJALALOUHOU
gRIAL SIGN
gARABIC LIGATURE BISMILLAH AR-RAHMAN AR-RAHEEM
wSUBHAANAHU WA TAAALAA
wAZZA WA JALL
gVARIATION SELECTOR-1
0hS1
hARIATION SELECTOR-2
0hS2
hARIATION SELECTOR-3
0hS3
hARIATION SELECTOR-4
0hS4
hARIATION SELECTOR-5
0hS5
hARIATION SELECTOR-6
0hS6
hARIATION SELECTOR-7
0hS7
hARIATION SELECTOR-8
0hS8
hARIATION SELECTOR-9
0hS9
hARIATION SELECTOR-10
0hS10
hARIATION SELECTOR-11
0hS11
hARIATION SELECTOR-12
0hS12
hARIATION SELECTOR-13
0hS13
hARIATION SELECTOR-14
0hS14
hARIATION SELECTOR-15
0hS15
hARIATION SELECTOR-16
0hS16
gPRESENTATION FORM FOR VERTICAL COMMA
zOR VERTICAL IDEOGRAPHIC COMMA
zOR VERTICAL IDEOGRAPHIC FULL STOP
zOR VERTICAL COLON
zOR VERTICAL SEMICOLON
zOR VERTICAL EXCLAMATION MARK
zOR VERTICAL QUESTION MARK
zOR VERTICAL LEFT WHITE LENTICULAR BRACKET
zOR VERTICAL RIGHT WHITE LENTICULAR BRACKET
0zOR VERTICAL RIGHT WHITE LENTICULAR BRAKCET
zOR VERTICAL HORIZONTAL ELLIPSIS
7gCOMBINING LIGATURE LEFT HALF
zRIGHT HALF
qDOUBLE TILDE LEFT HALF
zLDE RIGHT HALF
qMACRON LEFT HALF
xRIGHT HALF
qCONJOINING MACRON
qLIGATURE LEFT HALF BELOW
zRIGHT HALF BELOW
qTILDE LEFT HALF BELOW
wRIGHT HALF BELOW
qMACRON LEFT HALF BELOW
xRIGHT HALF BELOW
qCONJOINING MACRON BELOW
rYRILLIC TITLO LEFT HALF
zTITLO RIGHT HALF
gPRESENTATION FORM FOR VERTICAL TWO DOT LEADER
zOR VERTICAL EM DASH
zOR VERTICAL EN DASH
zOR VERTICAL LOW LINE
zOR VERTICAL WAVY LOW LINE
zOR VERTICAL LEFT PARENTHESIS
zOR VERTICAL RIGHT PARENTHESIS
zOR VERTICAL LEFT CURLY BRACKET
zOR VERTICAL RIGHT CURLY BRACKET
zOR VERTICAL LEFT TORTOISE SHELL BRACKET
zOR VERTICAL RIGHT TORTOISE SHELL BRACKET
zOR VERTICAL LEFT BLACK LENTICULAR BRACKET
zOR VERTICAL RIGHT BLACK LENTICULAR BRACKET
zOR VERTICAL LEFT DOUBLE ANGLE BRACKET
zOR VERTICAL RIGHT DOUBLE ANGLE BRACKET
zOR VERTICAL LEFT ANGLE BRACKET
zOR VERTICAL RIGHT ANGLE BRACKET
zOR VERTICAL LEFT CORNER BRACKET
zOR VERTICAL RIGHT CORNER BRACKET
zOR VERTICAL LEFT WHITE CORNER BRACKET
zOR VERTICAL RIGHT WHITE CORNER BRACKET
gSESAME DOT
gWHITE SESAME DOT
gPRESENTATION FORM FOR VERTICAL LEFT SQUARE BRACKET
zOR VERTICAL RIGHT SQUARE BRACKET
gDASHED OVERLINE
gCENTRELINE OVERLINE
gWAVY OVERLINE
gDOUBLE WAVY OVERLINE
hASHED LOW LINE
gCENTRELINE LOW LINE
gWAVY LOW LINE
gSMALL COMMA
mIDEOGRAPHIC COMMA
mFULL STOP
2mSEMICOLON
mCOLON
mQUESTION MARK
mEXCLAMATION MARK
nM DASH
mLEFT PARENTHESIS
mRIGHT PARENTHESIS
mLEFT CURLY BRACKET
mRIGHT CURLY BRACKET
mLEFT TORTOISE SHELL BRACKET
mRIGHT TORTOISE SHELL BRACKET
mNUMBER SIGN
mAMPERSAND
nSTERISK
mPLUS SIGN
mHYPHEN-MINUS
mLESS-THAN SIGN
mGREATER-THAN SIGN
mEQUALS SIGN
2mREVERSE SOLIDUS
mDOLLAR SIGN
mPERCENT SIGN
mCOMMERCIAL AT
5gARABIC FATHATAN ISOLATED FORM
nTATWEEL WITH FATHATAN ABOVE
nDAMMATAN ISOLATED FORM
nTAIL FRAGMENT
nKASRATAN ISOLATED FORM
2nFATHA ISOLATED FORM
tMEDIAL FORM
nDAMMA ISOLATED FORM
tMEDIAL FORM
nKASRA ISOLATED FORM
tMEDIAL FORM
nSHADDA ISOLATED FORM
uMEDIAL FORM
oUKUN ISOLATED FORM
tMEDIAL FORM
nLETTER HAMZA ISOLATED FORM
uALEF WITH MADDA ABOVE ISOLATED FORM
zWITH MADDA ABOVE FINAL FORM
zWITH HAMZA ABOVE ISOLATED FORM
zWITH HAMZA ABOVE FINAL FORM
uWAW WITH HAMZA ABOVE ISOLATED FORM
zITH HAMZA ABOVE FINAL FORM
uALEF WITH HAMZA BELOW ISOLATED FORM
zWITH HAMZA BELOW FINAL FORM
uYEH WITH HAMZA ABOVE ISOLATED FORM
zITH HAMZA ABOVE FINAL FORM
zITH HAMZA ABOVE INITIAL FORM
zITH HAMZA ABOVE MEDIAL FORM
uALEF ISOLATED FORM
zFINAL FORM
uBEH ISOLATED FORM
yFINAL FORM
yINITIAL FORM
yMEDIAL FORM
uTEH MARBUTA ISOLATED FORM
zARBUTA FINAL FORM
yISOLATED FORM
yFINAL FORM
yINITIAL FORM
yMEDIAL FORM
vHEH ISOLATED FORM
zFINAL FORM
zINITIAL FORM
zMEDIAL FORM
uJEEM ISOLATED FORM
zFINAL FORM
zINITIAL FORM
zMEDIAL FORM
uHAH ISOLATED FORM
yFINAL FORM
yINITIAL FORM
yMEDIAL FORM
uKHAH ISOLATED FORM
zFINAL FORM
zINITIAL FORM
zMEDIAL FORM
uDAL ISOLATED FORM
yFINAL FORM
uTHAL ISOLATED FORM
zFINAL FORM
uREH ISOLATED FORM
yFINAL FORM
uZAIN ISOLATED FORM
zFINAL FORM
uSEEN ISOLATED FORM
zFINAL FORM
zINITIAL FORM
zMEDIAL FORM
vHEEN ISOLATED FORM
z FINAL FORM
z INITIAL FORM
z MEDIAL FORM
vAD ISOLATED FORM
yFINAL FORM
yINITIAL FORM
yMEDIAL FORM
uDAD ISOLATED FORM
yFINAL FORM
yINITIAL FORM
yMEDIAL FORM
uTAH ISOLATED FORM
yFINAL FORM
yINITIAL FORM
yMEDIAL FORM
uZAH ISOLATED FORM
yFINAL FORM
yINITIAL FORM
yMEDIAL FORM
uAIN ISOLATED FORM
yFINAL FORM
yINITIAL FORM
yMEDIAL FORM
uGHAIN ISOLATED FORM
z FINAL FORM
z INITIAL FORM
z MEDIAL FORM
uFEH ISOLATED FORM
yFINAL FORM
yINITIAL FORM
yMEDIAL FORM
uQAF ISOLATED FORM
yFINAL FORM
yINITIAL FORM
yMEDIAL FORM
uKAF ISOLATED FORM
yFINAL FORM
yINITIAL FORM
yMEDIAL FORM
uLAM ISOLATED FORM
yFINAL FORM
yINITIAL FORM
yMEDIAL FORM
uMEEM ISOLATED FORM
zFINAL FORM
zINITIAL FORM
zMEDIAL FORM
uNOON ISOLATED FORM
zFINAL FORM
zINITIAL FORM
zMEDIAL FORM
uHEH ISOLATED FORM
yFINAL FORM
yINITIAL FORM
yMEDIAL FORM
uWAW ISOLATED FORM
yFINAL FORM
uALEF MAKSURA ISOLATED FORM
zMAKSURA FINAL FORM
uYEH ISOLATED FORM
yFINAL FORM
yINITIAL FORM
yMEDIAL FORM
oIGATURE LAM WITH ALEF WITH MADDA ABOVE ISOLATED FORM
z WITH ALEF WITH MADDA ABOVE FINAL FORM
z WITH ALEF WITH HAMZA ABOVE ISOLATED FORM
z WITH ALEF WITH HAMZA ABOVE FINAL FORM
z WITH ALEF WITH HAMZA BELOW ISOLATED FORM
z WITH ALEF WITH HAMZA BELOW FINAL FORM
z WITH ALEF ISOLATED FORM
z WITH ALEF FINAL FORM
3gBOM
0hYTE ORDER MARK
0gZERO WIDTH NO-BREAK SPACE
0hWNBSP
2gFULLWIDTH EXCLAMATION MARK
qQUOTATION MARK
qNUMBER SIGN
qDOLLAR SIGN
qPERCENT SIGN
qAMPERSAND
rPOSTROPHE
qLEFT PARENTHESIS
qRIGHT PARENTHESIS
qASTERISK
qPLUS SIGN
qCOMMA
qHYPHEN-MINUS
qFULL STOP
qSOLIDUS
qDIGIT ZERO
wONE
wTWO
xHREE
wFOUR
xIVE
wSIX
xEVEN
wEIGHT
wNINE
qCOLON
qSEMICOLON
qLESS-THAN SIGN
qEQUALS SIGN
qGREATER-THAN SIGN
qQUESTION MARK
qCOMMERCIAL AT
qLATIN CAPITAL LETTER A
zITAL LETTER B
zITAL LETTER C
zITAL LETTER D
zITAL LETTER E
zITAL LETTER F
zITAL LETTER G
zITAL LETTER H
zITAL LETTER I
zITAL LETTER J
zITAL LETTER K
zITAL LETTER L
zITAL LETTER M
zITAL LETTER N
zITAL LETTER O
zITAL LETTER P
zITAL LETTER Q
zITAL LETTER R
zITAL LETTER S
zITAL LETTER T
zITAL LETTER U
zITAL LETTER V
zITAL LETTER W
zITAL LETTER X
zITAL LETTER Y
zITAL LETTER Z
rEFT SQUARE BRACKET
qREVERSE SOLIDUS
rIGHT SQUARE BRACKET
qCIRCUMFLEX ACCENT
qLOW LINE
qGRAVE ACCENT
qLATIN SMALL LETTER A
zLL LETTER B
zLL LETTER C
zLL LETTER D
zLL LETTER E
zLL LETTER F
zLL LETTER G
zLL LETTER H
zLL LETTER I
zLL LETTER J
zLL LETTER K
zLL LETTER L
zLL LETTER M
zLL LETTER N
zLL LETTER O
zLL LETTER P
zLL LETTER Q
zLL LETTER R
zLL LETTER S
zLL LETTER T
zLL LETTER U
zLL LETTER V
zLL LETTER W
zLL LETTER X
zLL LETTER Y
zLL LETTER Z
rEFT CURLY BRACKET
qVERTICAL LINE
qRIGHT CURLY BRACKET
qTILDE
qLEFT WHITE PARENTHESIS
qRIGHT WHITE PARENTHESIS
gHALFWIDTH IDEOGRAPHIC FULL STOP
qLEFT CORNER BRACKET
qRIGHT CORNER BRACKET
qIDEOGRAPHIC COMMA
qKATAKANA MIDDLE DOT
zLETTER WO
zLETTER SMALL A
zLETTER SMALL I
zLETTER SMALL U
zLETTER SMALL E
zLETTER SMALL O
zLETTER SMALL YA
zLETTER SMALL YU
zLETTER SMALL YO
zLETTER SMALL TU
y-HIRAGANA PROLONGED SOUND MARK
y LETTER A
zLETTER I
zLETTER U
zLETTER E
zLETTER O
zLETTER KA
zLETTER KI
zLETTER KU
zLETTER KE
zLETTER KO
zLETTER SA
zLETTER SI
zLETTER SU
zLETTER SE
zLETTER SO
zLETTER TA
zLETTER TI
zLETTER TU
zLETTER TE
zLETTER TO
zLETTER NA
zLETTER NI
zLETTER NU
zLETTER NE
zLETTER NO
zLETTER HA
zLETTER HI
zLETTER HU
zLETTER HE
zLETTER HO
zLETTER MA
zLETTER MI
zLETTER MU
zLETTER ME
zLETTER MO
zLETTER YA
zLETTER YU
zLETTER YO
zLETTER RA
zLETTER RI
zLETTER RU
zLETTER RE
zLETTER RO
zLETTER WA
zLETTER N
zVOICED SOUND MARK
zSEMI-VOICED SOUND MARK
qHANGUL FILLER
xLETTER KIYEOK
zTTER SSANGKIYEOK
zTTER KIYEOK-SIOS
zTTER NIEUN
zTTER NIEUN-CIEUC
zTTER NIEUN-HIEUH
zTTER TIKEUT
zTTER SSANGTIKEUT
zTTER RIEUL
zTTER RIEUL-KIYEOK
zTTER RIEUL-MIEUM
zTTER RIEUL-PIEUP
zTTER RIEUL-SIOS
zTTER RIEUL-THIEUTH
zTTER RIEUL-PHIEUPH
zTTER RIEUL-HIEUH
zTTER MIEUM
zTTER PIEUP
zTTER SSANGPIEUP
zTTER PIEUP-SIOS
zTTER SIOS
zTTER SSANGSIOS
zTTER IEUNG
zTTER CIEUC
zTTER SSANGCIEUC
zTTER CHIEUCH
zTTER KHIEUKH
zTTER THIEUTH
zTTER PHIEUPH
zTTER HIEUH
4zTTER A
zTTER AE
zTTER YA
zTTER YAE
zTTER EO
zTTER E
3zTTER YEO
zTTER YE
zTTER O
zTTER WA
zTTER WAE
zTTER OE
3zTTER YO
zTTER U
zTTER WEO
zTTER WE
zTTER WI
zTTER YU
3zTTER EU
zTTER YI
zTTER I
4gFULLWIDTH CENT SIGN
qPOUND SIGN
qNOT SIGN
qMACRON
qBROKEN BAR
qYEN SIGN
qWON SIGN
2gHALFWIDTH FORMS LIGHT VERTICAL
qLEFTWARDS ARROW
qUPWARDS ARROW
qRIGHTWARDS ARROW
qDOWNWARDS ARROW
qBLACK SQUARE
qWHITE CIRCLE
bgINTERLINEAR ANNOTATION ANCHOR
zION SEPARATOR
zION TERMINATOR
gOBJECT REPLACEMENT CHARACTER
gREPLACEMENT CHARACTER
3gLINEAR B SYLLABLE B008 A
z038 E
z028 I
z061 O
z010 U
z001 DA
z045 DE
z007 DI
z014 DO
z051 DU
z057 JA
z046 JE
2z036 JO
z065 JU
z077 KA
z044 KE
z067 KI
z070 KO
z081 KU
z080 MA
z013 ME
z073 MI
z015 MO
z023 MU
z006 NA
z024 NE
z030 NI
z052 NO
z055 NU
z003 PA
z072 PE
z039 PI
z011 PO
z050 PU
z016 QA
z078 QE
z021 QI
z032 QO
2z060 RA
z027 RE
z053 RI
z002 RO
z026 RU
z031 SA
z009 SE
z041 SI
z012 SO
z058 SU
z059 TA
z004 TE
z037 TI
z005 TO
z069 TU
z054 WA
z075 WE
z040 WI
z042 WO
2z017 ZA
z074 ZE
2z020 ZO
z025 A2
z043 A3
z085 AU
z071 DWE
z090 DWO
z048 NWA
z029 PU2
z062 PTE
z076 RA2
z033 RA3
z068 RO2
z066 TA2
z087 TWE
z091 TWO
3rMBOL B018
z9
y22
y34
y47
z9
y56
y63
z4
y79
y82
z3
z6
z9
23pIDEOGRAM B100 MAN
z102 WOMAN
z104 DEER
z105 EQUID
z105F MARE
z105M STALLION
z106F EWE
z106M RAM
z107F SHE-GOAT
z107M HE-GOAT
z108F SOW
z108M BOAR
z109F COW
z109M BULL
z120 WHEAT
z121 BARLEY
z122 OLIVE
z123 SPICE
z125 CYPERUS
pMONOGRAM B127 KAPO
z128 KANAKO
pIDEOGRAM B130 OIL
z131 WINE
z132
pMONOGRAM B133 AREPA
z135 MERI
pIDEOGRAM B140 BRONZE
z141 GOLD
z142
z145 WOOL
z146
z150
z151 HORN
z152
z153
z154
pMONOGRAM B156 TURO2
pIDEOGRAM B157
z158
z159 CLOTH
z160
z161
z162 GARMENT
z163 ARMOUR
z164
z165
z166
z167
z168
z169
z170
z171
z172
z173 MONTH
z174
z176 TREE
z177
z178
z179
z180
z181
z182
z183
z184
z185
z189
z190
z191 HELMET
z220 FOOTSTOOL
z225 BATHTUB
z230 SPEAR
z231 ARROW
z232
z233 SWORD
z234
z236
z240 WHEELED CHARIOT
z241 CHARIOT
z242 CHARIOT FRAME
z243 WHEEL
z245
z246
pMONOGRAM B247 DIPTE
pIDEOGRAM B248
z249
z251
z252
z253
z254 DART
z255
z256
z257
z258
z259
yVESSEL B155
zESSEL B200
zESSEL B201
zESSEL B202
zESSEL B203
zESSEL B204
zESSEL B205
zESSEL B206
zESSEL B207
zESSEL B208
zESSEL B209
zESSEL B210
zESSEL B211
zESSEL B212
zESSEL B213
zESSEL B214
zESSEL B215
zESSEL B216
zESSEL B217
zESSEL B218
zESSEL B219
zESSEL B221
zESSEL B222
zESSEL B226
zESSEL B227
zESSEL B228
zESSEL B229
zESSEL B250
zESSEL B305
6gAEGEAN WORD SEPARATOR LINE
zOR DOT
nCHECK MARK
5nNUMBER ONE
uTWO
vHREE
uFOUR
vIVE
uSIX
vEVEN
uEIGHT
uNINE
uTEN
vWENTY
vHIRTY
uFORTY
vIFTY
uSIXTY
vEVENTY
uEIGHTY
uNINETY
uONE HUNDRED
uTWO HUNDRED
vHREE HUNDRED
uFOUR HUNDRED
vIVE HUNDRED
uSIX HUNDRED
vEVEN HUNDRED
uEIGHT HUNDRED
uNINE HUNDRED
uONE THOUSAND
uTWO THOUSAND
vHREE THOUSAND
uFOUR THOUSAND
vIVE THOUSAND
uSIX THOUSAND
vEVEN THOUSAND
uEIGHT THOUSAND
uNINE THOUSAND
uTEN THOUSAND
vWENTY THOUSAND
vHIRTY THOUSAND
uFORTY THOUSAND
vIFTY THOUSAND
uSIXTY THOUSAND
vEVENTY THOUSAND
uEIGHTY THOUSAND
uNINETY THOUSAND
4nWEIGHT BASE UNIT
uFIRST SUBUNIT
uSECOND SUBUNIT
uTHIRD SUBUNIT
uFOURTH SUBUNIT
nDRY MEASURE FIRST SUBUNIT
nLIQUID MEASURE FIRST SUBUNIT
nMEASURE SECOND SUBUNIT
vTHIRD SUBUNIT
gGREEK ACROPHONIC ATTIC ONE QUARTER
zTIC ONE HALF
zTIC ONE DRACHMA
zTIC FIVE
zTIC FIFTY
zTIC FIVE HUNDRED
zTIC FIVE THOUSAND
zTIC FIFTY THOUSAND
zTIC FIVE TALENTS
zTIC TEN TALENTS
zTIC FIFTY TALENTS
zTIC ONE HUNDRED TALENTS
zTIC FIVE HUNDRED TALENTS
zTIC ONE THOUSAND TALENTS
zTIC FIVE THOUSAND TALENTS
zTIC FIVE STATERS
zTIC TEN STATERS
zTIC FIFTY STATERS
zTIC ONE HUNDRED STATERS
zTIC FIVE HUNDRED STATERS
zTIC ONE THOUSAND STATERS
zTIC TEN THOUSAND STATERS
zTIC FIFTY THOUSAND STATERS
zTIC TEN MNAS
xHERAEUM ONE PLETHRON
xTHESPIAN ONE
xHERMIONIAN ONE
xEPIDAUREAN TWO
xTHESPIAN TWO
xCYRENAIC TWO DRACHMAS
xEPIDAUREAN TWO DRACHMAS
xTROEZENIAN FIVE
zOEZENIAN TEN
zOEZENIAN TEN ALTERNATE FORM
xHERMIONIAN TEN
xMESSENIAN TEN
xTHESPIAN TEN
zESPIAN THIRTY
yROEZENIAN FIFTY
zOEZENIAN FIFTY ALTERNATE FORM
xHERMIONIAN FIFTY
xTHESPIAN FIFTY
zESPIAN ONE HUNDRED
zESPIAN THREE HUNDRED
xEPIDAUREAN FIVE HUNDRED
xTROEZENIAN FIVE HUNDRED
yHESPIAN FIVE HUNDRED
xCARYSTIAN FIVE HUNDRED
xNAXIAN FIVE HUNDRED
xTHESPIAN ONE THOUSAND
zESPIAN FIVE THOUSAND
xDELPHIC FIVE MNAS
xSTRATIAN FIFTY MNAS
mONE HALF SIGN
z ALTERNATE FORM
mTWO THIRDS SIGN
nHREE QUARTERS SIGN
mYEAR SIGN
mTALENT SIGN
mDRACHMA SIGN
mOBOL SIGN
mTWO OBOLS SIGN
nHREE OBOLS SIGN
mFOUR OBOLS SIGN
nIVE OBOLS SIGN
mMETRETES SIGN
mKYATHOS BASE SIGN
mLITRA SIGN
mOUNKIA SIGN
mXESTES SIGN
mARTABE SIGN
oOURA SIGN
mGRAMMA SIGN
mTRYBLION BASE SIGN
mZERO SIGN
mONE QUARTER SIGN
mSINUSOID SIGN
mINDICTION SIGN
gNOMISMA SIGN
2gROMAN SEXTANS SIGN
mUNCIA SIGN
mSEMUNCIA SIGN
oXTULA SIGN
mDIMIDIA SEXTULA SIGN
mSILIQUA SIGN
mDENARIUS SIGN
mQUINARIUS SIGN
mSESTERTIUS SIGN
mDUPONDIUS SIGN
mAS SIGN
mCENTURIAL SIGN
gASCIA SYMBOL
4gGREEK SYMBOL TAU RHO
30gPHAISTOS DISC SIGN PEDESTRIAN
zPLUMED HEAD
zTATTOOED HEAD
zCAPTIVE
zCHILD
zWOMAN
zHELMET
zGAUNTLET
zTIARA
zARROW
zBOW
zSHIELD
zCLUB
zMANACLES
zMATTOCK
zSAW
zLID
zBOOMERANG
zCARPENTRY PLANE
zDOLIUM
zCOMB
zSLING
zCOLUMN
zBEEHIVE
zSHIP
zHORN
zHIDE
zBULLS LEG
zCAT
zRAM
zEAGLE
zDOVE
zTUNNY
zBEE
zPLANE TREE
zVINE
zPAPYRUS
zROSETTE
zLILY
zOX BACK
zFLUTE
zGRATER
zSTRAINER
zSMALL AXE
zWAVY BAND
zCOMBINING OBLIQUE STROKE
83gLYCIAN LETTER A
uE
uB
vH
uG
uD
uI
uW
uZ
uTH
uJ
uK
uQ
uL
uM
uN
uMM
uNN
uU
uP
uKK
uR
uS
uT
vT
uAN
uEN
uH
uX
4gCARIAN LETTER A
uP2
uD
uL
uUUU
uR
uLD
uA2
uQ
uB
uM
uO
uD2
uT
uSH
w2
v
uC-18
uU
uNN
uX
uN
uTT2
uP
uSS
uI
uE
uUUUU
uK
v2
uND
uUU
uG
v2
uST
w2
uNG
uII
uC-39
uTT
uUUU2
uRR
uMB
w2
w3
w4
uLD2
uE2
uUUU3
10hOPTIC EPACT THOUSANDS MARK
tDIGIT ONE
zTWO
zTHREE
zFOUR
zFIVE
zSIX
zSEVEN
zEIGHT
zNINE
tNUMBER TEN
z TWENTY
z THIRTY
z FORTY
z FIFTY
z SIXTY
z SEVENTY
z EIGHTY
z NINETY
z ONE HUNDRED
z TWO HUNDRED
z THREE HUNDRED
z FOUR HUNDRED
z FIVE HUNDRED
z SIX HUNDRED
z SEVEN HUNDRED
z EIGHT HUNDRED
z NINE HUNDRED
5gOLD ITALIC LETTER A
yBE
yKE
yDE
yE
yVE
yZE
yHE
yTHE
yI
yKA
yEL
zM
zN
zSH
yO
yPE
ySHE
yKU
yER
zS
yTE
yU
yEKS
yPHE
yKHE
yEF
zRS
yCHE
yII
yUU
yESS
rNUMERAL ONE
zFIVE
zTEN
zFIFTY
arLETTER YE
yNORTHERN TSE
ySOUTHERN TSE
gGOTHIC LETTER AHSA
uBAIRKAN
uGIBA
uDAGS
uAIHVUS
uQAIRTHRA
uIUJA
uHAGL
uTHIUTH
uEIS
uKUSMA
uLAGUS
uMANNA
uNAUTHS
uJER
uURUS
uPAIRTHRA
uNINETY
uRAIDA
uSAUIL
uTEIWS
uWINJA
uFAIHU
uIGGWS
uHWAIR
uOTHAL
uNINE HUNDRED
6gOLD PERMIC LETTER AN
yBUR
yGAI
yDOI
yE
yZHOI
yDZHOI
yZATA
yDZITA
yI
yKOKE
yLEI
yMENOE
yNENOE
yVOOI
yPEEI
yREI
ySII
yTAI
yU
yCHERY
ySHOOI
zHCHOOI
yYRY
zERU
yO
zO
yEF
yHA
yTSIU
yVER
yYER
zERI
zAT
yIE
yYU
zA
yIA
gCOMBINING OLD PERMIC LETTER AN
zC LETTER DOI
zC LETTER ZATA
zC LETTER NENOE
zC LETTER SII
6gUGARITIC LETTER ALPA
wBETA
wGAMLA
wKHA
wDELTA
wHO
wWO
wZETA
wHOTA
wTET
wYOD
wKAF
wSHIN
wLAMDA
wMEM
wDHAL
wNUN
wZU
wSAMKA
wAIN
wPU
wSADE
wQOPA
wRASHA
wTHANNA
wGHAIN
wTO
wI
wU
wSSU
2pWORD DIVIDER
gOLD PERSIAN SIGN A
xI
xU
xKA
yU
xGA
yU
xXA
xCA
xJA
yI
xTA
yU
xDA
yI
yU
xTHA
xPA
xBA
xFA
xNA
yU
xMA
yI
yU
xYA
xVA
yI
xRA
yU
xLA
xSA
xZA
xSHA
ySA
xHA
5xAURAMAZDAA
zRAMAZDAA-2
zRAMAZDAAHA
xXSHAAYATHIYA
xDAHYAAUSH
zHYAAUSH-2
xBAGA
yUUMISH
sWORD DIVIDER
sNUMBER ONE
zTWO
zTEN
zTWENTY
zHUNDRED
2bgDESERET CAPITAL LETTER LONG I
zTER LONG E
zTER LONG A
zTER LONG AH
zTER LONG O
zTER LONG OO
zTER SHORT I
zTER SHORT E
zTER SHORT A
zTER SHORT AH
zTER SHORT O
zTER SHORT OO
zTER AY
zTER OW
zTER WU
zTER YEE
zTER H
zTER PEE
zTER BEE
zTER TEE
zTER DEE
zTER CHEE
zTER JEE
zTER KAY
zTER GAY
zTER EF
zTER VEE
zTER ETH
zTER THEE
zTER ES
zTER ZEE
zTER ESH
zTER ZHEE
zTER ER
zTER EL
zTER EM
zTER EN
zTER ENG
zTER OI
zTER EW
oSMALL LETTER LONG I
zR LONG E
zR LONG A
zR LONG AH
zR LONG O
zR LONG OO
zR SHORT I
zR SHORT E
zR SHORT A
zR SHORT AH
zR SHORT O
zR SHORT OO
zR AY
zR OW
zR WU
zR YEE
zR H
zR PEE
zR BEE
zR TEE
zR DEE
zR CHEE
zR JEE
zR KAY
zR GAY
zR EF
zR VEE
zR ETH
zR THEE
zR ES
zR ZEE
zR ESH
zR ZHEE
zR ER
zR EL
zR EM
zR EN
zR ENG
zR OI
zR EW
gSHAVIAN LETTER PEEP
vTOT
vKICK
vFEE
vTHIGH
vSO
wURE
vCHURCH
vYEA
vHUNG
vBIB
vDEAD
vGAG
vVOW
vTHEY
vZOO
vMEASURE
vJUDGE
vWOE
vHA-HA
vLOLL
vMIME
vIF
vEGG
vASH
wDO
vON
vWOOL
vOUT
vAH
vROAR
vNUN
vEAT
vAGE
vICE
vUP
vOAK
wOZE
wIL
vAWE
wRE
vOR
vAIR
vERR
vARRAY
vEAR
vIAN
vYEW
gOSMANYA LETTER ALEF
vBA
vTA
vJA
vXA
vKHA
vDEEL
vRA
vSA
wHIIN
vDHA
vCAYN
vGA
vFA
vQAAF
vKAAF
vLAAN
vMIIN
vNUUN
vWAW
vHA
vYA
vA
vE
vI
vO
vU
vAA
vEE
vOO
3oDIGIT ZERO
uONE
uTWO
vHREE
uFOUR
vIVE
uSIX
vEVEN
uEIGHT
uNINE
7iAGE CAPITAL LETTER A
zR AI
zR AIN
zR AH
zR BRA
zR CHA
zR EHCHA
zR E
zR EIN
zR HA
zR HYA
zR I
zR KA
zR EHKA
zR KYA
zR LA
zR MA
zR NA
zR O
zR OIN
zR PA
zR EHPA
zR SA
zR SHA
zR TA
zR EHTA
zR TSA
zR EHTSA
zR TSHA
zR DHA
zR U
zR WA
zR KHA
zR GHA
zR ZA
zR ZHA
5mSMALL LETTER A
zAI
zAIN
zAH
zBRA
zCHA
zEHCHA
zE
zEIN
zHA
zHYA
zI
zKA
zEHKA
zKYA
zLA
zMA
zNA
zO
zOIN
zPA
zEHPA
zSA
zSHA
zTA
zEHTA
zTSA
zEHTSA
zTSHA
zDHA
zU
zWA
zKHA
zGHA
zZA
zZHA
5gELBASAN LETTER A
vBE
vCE
wHE
vDE
vNDE
vDHE
vEI
w
vFE
vGE
wJE
vHE
vI
vJE
vKE
vLE
wLE
vME
vNE
wA
wJE
vO
vPE
vQE
vRE
wRE
vSE
wHE
vTE
wHE
vU
vVE
vXE
vY
vZE
wHE
vGHE
xAMMA
vKHE
9gCAUCASIAN ALBANIAN LETTER ALT
zLETTER BET
zLETTER GIM
zLETTER DAT
zLETTER EB
zLETTER ZARL
zLETTER EYN
zLETTER ZHIL
zLETTER TAS
zLETTER CHA
zLETTER YOWD
zLETTER ZHA
zLETTER IRB
zLETTER SHA
zLETTER LAN
zLETTER INYA
zLETTER XEYN
zLETTER DYAN
zLETTER CAR
zLETTER JHOX
zLETTER KAR
zLETTER LYIT
zLETTER HEYT
zLETTER QAY
zLETTER AOR
zLETTER CHOY
zLETTER CHI
zLETTER CYAY
zLETTER MAQ
zLETTER QAR
zLETTER NOWC
zLETTER DZYAY
zLETTER SHAK
zLETTER JAYN
zLETTER ON
zLETTER TYAY
zLETTER FAM
zLETTER DZAY
zLETTER CHAT
zLETTER PEN
zLETTER GHEYS
zLETTER RAT
zLETTER SEYK
zLETTER VEYZ
zLETTER TIWR
zLETTER SHOY
zLETTER IWN
zLETTER CYAW
zLETTER CAYN
zLETTER YAYD
zLETTER PIWR
zLETTER KIW
czCITATION MARK
gVITHKUQI CAPITAL LETTER A
zTTER BBE
zTTER BE
zTTER CE
zTTER CHE
zTTER DE
zTTER DHE
zTTER EI
zTTER E
zTTER FE
zTTER GA
2zTTER HA
zTTER HHA
zTTER I
zTTER IJE
zTTER JE
zTTER KA
zTTER LA
zTTER LLA
zTTER ME
zTTER NE
zTTER NJE
zTTER O
zTTER PE
zTTER QA
zTTER RE
2zTTER SE
zTTER SHE
zTTER TE
zTTER THE
zTTER U
zTTER VE
zTTER XE
2zTTER Y
zTTER ZE
2pSMALL LETTER A
zER BBE
zER BE
zER CE
zER CHE
zER DE
zER DHE
zER EI
zER E
zER FE
zER GA
2zER HA
zER HHA
zER I
zER IJE
zER JE
zER KA
zER LA
zER LLA
zER ME
zER NE
zER NJE
zER O
zER PE
zER QA
zER RE
2zER SE
zER SHE
zER TE
zER THE
zER U
zER VE
zER XE
2zER Y
zER ZE
44gLINEAR A SIGN AB001
y2
y3
y4
y5
y6
y7
y8
y9
x10
y1
y3
y6
y7
x20
y1
zF
zM
y2
zF
zM
y3
zM
y4
y6
y7
y8
v028B
vB029
x30
y1
y4
y7
y8
y9
x40
y1
y4
y5
y6
y7
y8
y9
x50
y1
y3
y4
y5
y6
y7
y8
y9
x60
y1
y5
y6
y7
y9
x70
y3
y4
y6
y7
y8
y9
x80
y1
y2
y5
y6
y7
v100-102
vB118
x20
v120B
vB122
y3
x31A
zB
v131C
vB164
x71
x80
y8
x91
v301
x2
x3
x4
x5
x6
x7
x8
x9A
yB
yC
w10
x1
x2
x3A
yB
yC
x4
x5
x6
x7
x8
x9
w20
x1
x2
x3
x4
x5
x6
x7
x8
x9
w30
x1
x2
x3
x4
x5
x6
x7
x8
x9
w40
x1
x2
x3
x4
x5
x6
x7
x8
x9
w50
x1
x2
x3
x4
x5
x6
x7
x8
x9
w60
x1
x2
x3
x4
x5
x6
x7
x8
x9
w70
x1
v400-VAS
x1-VAS
x2-VAS
x3-VAS
x4-VAS
x5-VAS
x6-VAS
x7-VAS
x8-VAS
x9-VAS
w10-VAS
x1-VAS
x2-VAS
x3-VAS
x4-VAS
x5-VAS
x6-VAS
x7-VAS
x8-VAS
v501
x2
x3
x4
x5
x6
x8
x9
w10
x1
x2
x3
x5
x6
w20
x1
x3
x4
x5
x6
x7
x8
x9
w30
x1
x2
x4
x5
x6
x7
x8
x9
w40
x1
x2
x5
x7
x8
x9
w50
x1
x2
x3
x4
x5
x6
x7
x9
w63
x4
x5
x6
x8
x9
w70
x1
x2
x3
x4
x5
x6
x7
x8
x9
w80
x1
x2
x3
x4
x5
x6
x7
x8
x9
w91
x2
x4
x5
x6
x8
v600
x1
x2
x3
x4
x6
x8
x9
w10
x1
x2
x3
x4
x5
x6
x7
x8
x9
w20
x1
x2
x3
x4
x6
x7
x8
x9
w34
x7
x8
w40
x2
x3
x4
x5
x6
x8
x9
w51
x2
x3
x4
x5
x6
x7
x8
x9
w60
x1
x2
x3
x4
av701 A
x2 B
x3 D
x4 E
x5 F
x6 H
x7 J
x8 K
x9 L
y-2 L2
z3 L3
z4 L4
z6 L6
w10 W
x1 X
x2 Y
x3 OMEGA
x4 ABB
x5 BB
x7 DD
w26 EYYY
w32 JE
bv800
x1
x2
x3
x4
x5
x6
x7
19gMODIFIER LETTER SMALL CAPITAL AA
xUPERSCRIPT TRIANGULAR COLON
zERSCRIPT HALF TRIANGULAR COLON
xMALL AE
zLL CAPITAL B
zLL B WITH HOOK
2zLL DZ DIGRAPH
zLL DZ DIGRAPH WITH RETROFLEX HOOK
zLL DZ DIGRAPH WITH CURL
zLL DEZH DIGRAPH
zLL D WITH TAIL
zLL D WITH HOOK
zLL D WITH HOOK AND TAIL
zLL REVERSED E
zLL CLOSED REVERSED OPEN E
zLL FENG DIGRAPH
zLL RAMS HORN
zLL CAPITAL G
zLL G WITH HOOK
zLL CAPITAL G WITH HOOK
zLL H WITH STROKE
zLL CAPITAL H
zLL HENG WITH HOOK
zLL DOTLESS J WITH STROKE AND HOOK
zLL LS DIGRAPH
zLL LZ DIGRAPH
zLL L WITH BELT
zLL CAPITAL L WITH BELT
zLL L WITH RETROFLEX HOOK AND BELT
zLL LEZH
zLL LEZH WITH RETROFLEX HOOK
zLL TURNED Y
zLL TURNED Y WITH BELT
zLL O WITH STROKE
zLL CAPITAL OE
zLL CLOSED OMEGA
zLL Q
zLL TURNED R WITH LONG LEG
zLL TURNED R WITH LONG LEG AND RETROFLEX HOOK
zLL R WITH TAIL
zLL R WITH FISHHOOK
zLL CAPITAL R
zLL TC DIGRAPH WITH CURL
zLL TS DIGRAPH
zLL TS DIGRAPH WITH RETROFLEX HOOK
zLL TESH DIGRAPH
zLL T WITH RETROFLEX HOOK
zLL V WITH RIGHT HOOK
2zLL CAPITAL Y
wGLOTTAL STOP WITH STROKE
wREVERSED GLOTTAL STOP WITH STROKE
wBILABIAL CLICK
wDENTAL CLICK
wLATERAL CLICK
wALVEOLAR CLICK
wRETROFLEX CLICK WITH RETROFLEX HOOK
wSMALL S WITH CURL
46gCYPRIOT SYLLABLE A
xE
xI
xO
xU
xJA
3yO
2xKA
yE
yI
yO
yU
xLA
yE
yI
yO
yU
xMA
yE
yI
yO
yU
xNA
yE
yI
yO
yU
xPA
yE
yI
yO
yU
xRA
yE
yI
yO
yU
xSA
yE
yI
yO
yU
xTA
yE
yI
yO
yU
xWA
yE
yI
yO
2xXA
yE
4xZA
3yO
gIMPERIAL ARAMAIC LETTER ALEPH
zTTER BETH
zTTER GIMEL
zTTER DALETH
zTTER HE
zTTER WAW
zTTER ZAYIN
zTTER HETH
zTTER TETH
zTTER YODH
zTTER KAPH
zTTER LAMEDH
zTTER MEM
zTTER NUN
zTTER SAMEKH
zTTER AYIN
zTTER PE
zTTER SADHE
zTTER QOPH
zTTER RESH
zTTER SHIN
zTTER TAW
2xSECTION SIGN
xNUMBER ONE
zMBER TWO
zMBER THREE
zMBER TEN
zMBER TWENTY
zMBER ONE HUNDRED
zMBER ONE THOUSAND
zMBER TEN THOUSAND
gPALMYRENE LETTER ALEPH
xBETH
xGIMEL
xDALETH
xHE
xWAW
xZAYIN
xHETH
xTETH
xYODH
xKAPH
xLAMEDH
xMEM
xFINAL NUN
xNUN
xSAMEKH
xAYIN
xPE
xSADHE
xQOPH
xRESH
xSHIN
xTAW
sFT-POINTING FLEURON
qRIGHT-POINTING FLEURON
qNUMBER ONE
xTWO
yHREE
xFOUR
yIVE
xTEN
yWENTY
gNABATAEAN LETTER FINAL ALEPH
xALEPH
xFINAL BETH
xBETH
xGIMEL
xDALETH
xFINAL HE
xHE
xWAW
xZAYIN
xHETH
xTETH
xFINAL YODH
xYODH
xFINAL KAPH
xKAPH
xFINAL LAMEDH
xLAMEDH
xFINAL MEM
xMEM
xFINAL NUN
xNUN
xSAMEKH
xAYIN
xPE
xSADHE
xQOPH
xRESH
xFINAL SHIN
xSHIN
xTAW
9qNUMBER ONE
xTWO
yHREE
xFOUR
qCRUCIFORM NUMBER FOUR
qNUMBER FIVE
xTEN
yWENTY
xONE HUNDRED
31gHATRAN LETTER ALEPH
uBETH
uGIMEL
uDALETH-RESH
uHE
uWAW
uZAYN
uHETH
uTETH
uYODH
uKAPH
uLAMEDH
uMEM
uNUN
uSAMEKH
uAYN
uPE
uSADHE
uQOPH
2uSHIN
uTAW
6nNUMBER ONE
uFIVE
uTEN
vWENTY
uONE HUNDRED
gPHOENICIAN LETTER ALF
yBET
yGAML
yDELT
yHE
yWAU
yZAI
yHET
yTET
yYOD
yKAF
yLAMD
yMEM
yNUN
ySEMK
yAIN
yPE
ySADE
yQOF
yROSH
ySHIN
yTAU
rNUMBER ONE
yTEN
zWENTY
yONE HUNDRED
yTWO
zHREE
4rWORD SEPARATOR
gLYDIAN LETTER A
uB
uG
uD
uE
uV
uI
uY
uK
uL
uM
uN
uO
uR
uSS
uT
uU
uF
uQ
uS
uTT
uAN
uEN
uLY
uNN
uC
6nTRIANGULAR MARK
41gMEROITIC HIEROGLYPHIC LETTER A
zIC LETTER E
zIC LETTER I
zIC LETTER O
zIC LETTER YA
zIC LETTER WA
zIC LETTER BA
zIC LETTER BA-2
zIC LETTER PA
zIC LETTER MA
zIC LETTER NA
zIC LETTER NA-2
zIC LETTER NE
zIC LETTER NE-2
zIC LETTER RA
zIC LETTER RA-2
zIC LETTER LA
zIC LETTER KHA
zIC LETTER HHA
zIC LETTER SA
zIC LETTER SA-2
zIC LETTER SE
zIC LETTER KA
zIC LETTER QA
zIC LETTER TA
zIC LETTER TA-2
zIC LETTER TE
zIC LETTER TE-2
zIC LETTER TO
zIC LETTER DA
zIC SYMBOL VIDJ
zIC SYMBOL VIDJ-2
pCURSIVE LETTER A
zTTER E
zTTER I
zTTER O
zTTER YA
zTTER WA
zTTER BA
zTTER PA
zTTER MA
zTTER NA
zTTER NE
zTTER RA
zTTER LA
zTTER KHA
zTTER HHA
zTTER SA
zTTER ARCHAIC SA
zTTER SE
zTTER KA
zTTER QA
zTTER TA
zTTER TE
zTTER TO
zTTER DA
5xFRACTION ELEVEN TWELFTHS
zACTION ONE HALF
xLOGOGRAM RMT
zGOGRAM IMN
xNUMBER ONE
zMBER TWO
zMBER THREE
zMBER FOUR
zMBER FIVE
zMBER SIX
zMBER SEVEN
zMBER EIGHT
zMBER NINE
zMBER TEN
zMBER TWENTY
zMBER THIRTY
zMBER FORTY
zMBER FIFTY
zMBER SIXTY
zMBER SEVENTY
3zMBER ONE HUNDRED
zMBER TWO HUNDRED
zMBER THREE HUNDRED
zMBER FOUR HUNDRED
zMBER FIVE HUNDRED
zMBER SIX HUNDRED
zMBER SEVEN HUNDRED
zMBER EIGHT HUNDRED
zMBER NINE HUNDRED
zMBER ONE THOUSAND
zMBER TWO THOUSAND
zMBER THREE THOUSAND
zMBER FOUR THOUSAND
zMBER FIVE THOUSAND
zMBER SIX THOUSAND
zMBER SEVEN THOUSAND
zMBER EIGHT THOUSAND
zMBER NINE THOUSAND
zMBER TEN THOUSAND
zMBER TWENTY THOUSAND
zMBER THIRTY THOUSAND
zMBER FORTY THOUSAND
zMBER FIFTY THOUSAND
zMBER SIXTY THOUSAND
zMBER SEVENTY THOUSAND
zMBER EIGHTY THOUSAND
zMBER NINETY THOUSAND
zMBER ONE HUNDRED THOUSAND
zMBER TWO HUNDRED THOUSAND
zMBER THREE HUNDRED THOUSAND
zMBER FOUR HUNDRED THOUSAND
zMBER FIVE HUNDRED THOUSAND
zMBER SIX HUNDRED THOUSAND
zMBER SEVEN HUNDRED THOUSAND
zMBER EIGHT HUNDRED THOUSAND
zMBER NINE HUNDRED THOUSAND
xFRACTION ONE TWELFTH
zACTION TWO TWELFTHS
zACTION THREE TWELFTHS
zACTION FOUR TWELFTHS
zACTION FIVE TWELFTHS
zACTION SIX TWELFTHS
zACTION SEVEN TWELFTHS
zACTION EIGHT TWELFTHS
zACTION NINE TWELFTHS
zACTION TEN TWELFTHS
gKHAROSHTHI LETTER A
rVOWEL SIGN I
zGN U
zGN VOCALIC R
2zGN E
zGN O
6xLENGTH MARK
rSIGN DOUBLE RING BELOW
wANUSVARA
wVISARGA
rLETTER KA
zHA
yGA
zHA
2yCA
zHA
yJA
2yNYA
yTTA
zTHA
yDDA
zDHA
yNNA
yTA
zHA
yDA
zHA
yNA
yPA
zHA
yBA
zHA
yMA
yYA
yRA
yLA
yVA
ySHA
zSA
zA
yZA
yHA
yKKA
yTTTHA
zTTA
yVHA
3rSIGN BAR ABOVE
wCAUDA
wDOT BELOW
5rVIRAMA
rDIGIT ONE
xTWO
yHREE
xFOUR
rNUMBER TEN
zWENTY
yONE HUNDRED
zNE THOUSAND
rFRACTION ONE HALF
8rPUNCTUATION DOT
zION SMALL CIRCLE
zION CIRCLE
zION CRESCENT BAR
zION MANGALAM
zION LOTUS
zION DANDA
zION DOUBLE DANDA
zION LINES
8gOLD SOUTH ARABIAN LETTER HE
zETTER LAMEDH
zETTER HETH
zETTER MEM
zETTER QOPH
zETTER WAW
zETTER SHIN
zETTER RESH
zETTER BETH
zETTER TAW
zETTER SAT
zETTER KAPH
zETTER NUN
zETTER KHETH
zETTER SADHE
zETTER SAMEKH
zETTER FE
zETTER ALEF
zETTER AYN
zETTER DHADHE
zETTER GIMEL
zETTER DALETH
zETTER GHAYN
zETTER TETH
zETTER ZAYN
zETTER DHALETH
zETTER YODH
zETTER THAW
zETTER THETH
yNUMBER ONE
zUMBER FIFTY
zUMERIC INDICATOR
kNORTH ARABIAN LETTER HEH
zETTER LAM
zETTER HAH
zETTER MEEM
zETTER QAF
zETTER WAW
zETTER ES-2
zETTER REH
zETTER BEH
zETTER TEH
zETTER ES-1
zETTER KAF
zETTER NOON
zETTER KHAH
zETTER SAD
zETTER ES-3
zETTER FEH
zETTER ALEF
zETTER AIN
zETTER DAD
zETTER GEEM
zETTER DAL
zETTER GHAIN
zETTER TAH
zETTER ZAIN
zETTER THAL
zETTER YEH
zETTER THEH
zETTER ZAH
yNUMBER ONE
zUMBER TEN
zUMBER TWENTY
21gMANICHAEAN LETTER ALEPH
yBETH
zHETH
yGIMEL
zHIMEL
yDALETH
yHE
yWAW
rSIGN UD
rLETTER ZAYIN
zHAYIN
yJAYIN
zHAYIN
yHETH
yTETH
yYODH
yKAPH
yXAPH
yKHAPH
yLAMEDH
yDHAMEDH
yTHAMEDH
yMEM
yNUN
ySAMEKH
yAYIN
zAYIN
yPE
yFE
ySADHE
yQOPH
yXOPH
yQHOPH
yRESH
ySHIN
zSHIN
yTAW
rABBREVIATION MARK ABOVE
zTION MARK BELOW
5rNUMBER ONE
yFIVE
yTEN
zWENTY
yONE HUNDRED
rPUNCTUATION STAR
zION FLEURON
zION DOUBLE DOT WITHIN DOT
zION DOT WITHIN DOT
zION DOT
zION TWO DOTS
zION LINE FILLER
agAVESTAN LETTER A
wA
wO
wAO
wN
wAN
wE
xE
vE
wE
vO
wO
vI
wI
vU
wU
vKE
vXE
wYE
wVE
vGE
wGE
wHE
vCE
vJE
vTE
wHE
vDE
wHE
vTTE
vPE
vFE
vBE
wHE
vNGE
xYE
xVE
wE
wYE
wNE
vME
vHME
vYYE
wE
vVE
vRE
vLE
vSE
vZE
vSHE
vZHE
vSHYE
wSHE
vHE
4oABBREVIATION MARK
gTINY TWO DOTS OVER ONE DOT PUNCTUATION
gSMALL TWO DOTS OVER ONE DOT PUNCTUATION
gLARGE TWO DOTS OVER ONE DOT PUNCTUATION
mONE DOT OVER TWO DOTS PUNCTUATION
mTWO RINGS OVER ONE RING PUNCTUATION
mONE RING OVER TWO RINGS PUNCTUATION
gINSCRIPTIONAL PARTHIAN LETTER ALEPH
zIAN LETTER BETH
zIAN LETTER GIMEL
zIAN LETTER DALETH
zIAN LETTER HE
zIAN LETTER WAW
zIAN LETTER ZAYIN
zIAN LETTER HETH
zIAN LETTER TETH
zIAN LETTER YODH
zIAN LETTER KAPH
zIAN LETTER LAMEDH
zIAN LETTER MEM
zIAN LETTER NUN
zIAN LETTER SAMEKH
zIAN LETTER AYIN
zIAN LETTER PE
zIAN LETTER SADHE
zIAN LETTER QOPH
zIAN LETTER RESH
zIAN LETTER SHIN
zIAN LETTER TAW
3zIAN NUMBER ONE
zIAN NUMBER TWO
zIAN NUMBER THREE
zIAN NUMBER FOUR
zIAN NUMBER TEN
zIAN NUMBER TWENTY
zIAN NUMBER ONE HUNDRED
zIAN NUMBER ONE THOUSAND
wHLAVI LETTER ALEPH
zVI LETTER BETH
zVI LETTER GIMEL
zVI LETTER DALETH
zVI LETTER HE
zVI LETTER WAW-AYIN-RESH
zVI LETTER ZAYIN
zVI LETTER HETH
zVI LETTER TETH
zVI LETTER YODH
zVI LETTER KAPH
zVI LETTER LAMEDH
zVI LETTER MEM-QOPH
zVI LETTER NUN
zVI LETTER SAMEKH
zVI LETTER PE
zVI LETTER SADHE
zVI LETTER SHIN
zVI LETTER TAW
6zVI NUMBER ONE
zVI NUMBER TWO
zVI NUMBER THREE
zVI NUMBER FOUR
zVI NUMBER TEN
zVI NUMBER TWENTY
zVI NUMBER ONE HUNDRED
zVI NUMBER ONE THOUSAND
gPSALTER PAHLAVI LETTER ALEPH
zTER BETH
zTER GIMEL
zTER DALETH
zTER HE
zTER WAW-AYIN-RESH
zTER ZAYIN
zTER HETH
zTER YODH
zTER KAPH
zTER LAMEDH
zTER MEM-QOPH
zTER NUN
zTER SAMEKH
zTER PE
zTER SADHE
zTER SHIN
zTER TAW
8wSECTION MARK
wTURNED SECTION MARK
wFOUR DOTS WITH CROSS
zR DOTS WITH DOT
dwNUMBER ONE
zBER TWO
zBER THREE
zBER FOUR
zBER TEN
zBER TWENTY
zBER ONE HUNDRED
51gOLD TURKIC LETTER ORKHON A
yYENISEI A
zENISEI AE
yORKHON I
yYENISEI I
zENISEI E
yORKHON O
zRKHON OE
yYENISEI OE
yORKHON AB
yYENISEI AB
yORKHON AEB
yYENISEI AEB
yORKHON AG
yYENISEI AG
yORKHON AEG
yYENISEI AEG
yORKHON AD
yYENISEI AD
yORKHON AED
zRKHON EZ
yYENISEI EZ
yORKHON AY
yYENISEI AY
yORKHON AEY
yYENISEI AEY
yORKHON AEK
yYENISEI AEK
yORKHON OEK
yYENISEI OEK
yORKHON AL
yYENISEI AL
yORKHON AEL
zRKHON ELT
zRKHON EM
zRKHON AN
zRKHON AEN
yYENISEI AEN
yORKHON ENT
yYENISEI ENT
yORKHON ENC
yYENISEI ENC
yORKHON ENY
yYENISEI ENY
zENISEI ANG
yORKHON ENG
yYENISEI AENG
yORKHON EP
zRKHON OP
zRKHON IC
zRKHON EC
yYENISEI EC
yORKHON AQ
yYENISEI AQ
yORKHON IQ
yYENISEI IQ
yORKHON OQ
yYENISEI OQ
yORKHON AR
yYENISEI AR
yORKHON AER
zRKHON AS
zRKHON AES
zRKHON ASH
yYENISEI ASH
yORKHON ESH
yYENISEI ESH
yORKHON AT
yYENISEI AT
yORKHON AET
yYENISEI AET
yORKHON OT
zRKHON BASH
38kHUNGARIAN CAPITAL LETTER A
zAL LETTER AA
zAL LETTER EB
zAL LETTER AMB
zAL LETTER EC
zAL LETTER ENC
zAL LETTER ECS
zAL LETTER ED
zAL LETTER AND
zAL LETTER E
zAL LETTER CLOSE E
zAL LETTER EE
zAL LETTER EF
zAL LETTER EG
zAL LETTER EGY
zAL LETTER EH
zAL LETTER I
zAL LETTER II
zAL LETTER EJ
zAL LETTER EK
zAL LETTER AK
zAL LETTER UNK
zAL LETTER EL
zAL LETTER ELY
zAL LETTER EM
zAL LETTER EN
zAL LETTER ENY
zAL LETTER O
zAL LETTER OO
zAL LETTER NIKOLSBURG OE
zAL LETTER RUDIMENTA OE
zAL LETTER OEE
zAL LETTER EP
zAL LETTER EMP
zAL LETTER ER
zAL LETTER SHORT ER
zAL LETTER ES
zAL LETTER ESZ
zAL LETTER ET
zAL LETTER ENT
zAL LETTER ETY
zAL LETTER ECH
zAL LETTER U
zAL LETTER UU
zAL LETTER NIKOLSBURG UE
zAL LETTER RUDIMENTA UE
zAL LETTER EV
zAL LETTER EZ
zAL LETTER EZS
zAL LETTER ENT-SHAPED SIGN
zAL LETTER US
euSMALL LETTER A
z LETTER AA
z LETTER EB
z LETTER AMB
z LETTER EC
z LETTER ENC
z LETTER ECS
z LETTER ED
z LETTER AND
z LETTER E
z LETTER CLOSE E
z LETTER EE
z LETTER EF
z LETTER EG
z LETTER EGY
z LETTER EH
z LETTER I
z LETTER II
z LETTER EJ
z LETTER EK
z LETTER AK
z LETTER UNK
z LETTER EL
z LETTER ELY
z LETTER EM
z LETTER EN
z LETTER ENY
z LETTER O
z LETTER OO
z LETTER NIKOLSBURG OE
z LETTER RUDIMENTA OE
z LETTER OEE
z LETTER EP
z LETTER EMP
z LETTER ER
z LETTER SHORT ER
z LETTER ES
z LETTER ESZ
z LETTER ET
z LETTER ENT
z LETTER ETY
z LETTER ECH
z LETTER U
z LETTER UU
z LETTER NIKOLSBURG UE
z LETTER RUDIMENTA UE
z LETTER EV
z LETTER EZ
z LETTER EZS
z LETTER ENT-SHAPED SIGN
z LETTER US
8uNUMBER ONE
zR FIVE
zR TEN
zR FIFTY
zR ONE HUNDRED
zR ONE THOUSAND
gHANIFI ROHINGYA LETTER A
zTER BA
zTER PA
zTER TA
zTER TTA
zTER JA
zTER CA
zTER HA
zTER KHA
zTER FA
zTER DA
zTER DDA
zTER RA
zTER RRA
zTER ZA
zTER SA
zTER SHA
zTER KA
zTER GA
zTER LA
zTER MA
zTER NA
zTER WA
zTER KINNA WA
zTER YA
zTER KINNA YA
zTER NGA
zTER NYA
zTER VA
wVOWEL A
zEL I
zEL U
zEL E
zEL O
wMARK SAKIN
zK NA KHONNA
wSIGN HARBAHAY
zN TAHALA
zN TANA
zN TASSI
9wDIGIT ZERO
zIT ONE
zIT TWO
zIT THREE
zIT FOUR
zIT FIVE
zIT SIX
zIT SEVEN
zIT EIGHT
zIT NINE
127gRUMI DIGIT ONE
rTWO
sHREE
rFOUR
sIVE
rSIX
sEVEN
rEIGHT
rNINE
lNUMBER TEN
tWENTY
tHIRTY
sFORTY
tIFTY
sSIXTY
tEVENTY
sEIGHTY
sNINETY
sONE HUNDRED
sTWO HUNDRED
tHREE HUNDRED
sFOUR HUNDRED
tIVE HUNDRED
sSIX HUNDRED
tEVEN HUNDRED
sEIGHT HUNDRED
sNINE HUNDRED
lFRACTION ONE HALF
yQUARTER
yTHIRD
uTWO THIRDS
2gYEZIDI LETTER ELIF
uBE
uPE
vHE
uTHE
uSE
uCIM
vHIM
wHIM
uHHA
uXA
uDAL
uZAL
uRA
vHA
uZA
uJA
uSIN
vHIN
vAD
uDAD
uTA
uZE
uEYN
uXHEYN
uFA
uVA
w ALTERNATE FORM
uQAF
uKAF
vHAF
uGAF
uLAM
uMIM
uNUN
uUM
uWAW
uOW
uEW
uHAY
uYOT
uET
2nCOMBINING HAMZA MARK
xMADDA MARK
nHYPHENATION MARK
3nLETTER LAM WITH DOT ABOVE
uYOT WITH CIRCUMFLEX ABOVE
4cgARABIC SMALL LOW WORD SAKTA
zRD QASR
zRD MADDA
gOLD SOGDIAN LETTER ALEPH
zFINAL ALEPH
zBETH
zFINAL BETH
zGIMEL
zHE
zFINAL HE
zWAW
zZAYIN
zHETH
zYODH
zKAPH
zLAMEDH
zMEM
zNUN
zFINAL NUN
zFINAL NUN WITH VERTICAL TAIL
zSAMEKH
zAYIN
zALTERNATE AYIN
zPE
zSADHE
zFINAL SADHE
zFINAL SADHE WITH VERTICAL TAIL
zRESH-AYIN-DALETH
zSHIN
zTAW
zFINAL TAW
zFINAL TAW WITH VERTICAL TAIL
sNUMBER ONE
zTWO
zTHREE
zFOUR
zFIVE
zTEN
zTWENTY
zTHIRTY
zONE HUNDRED
sFRACTION ONE HALF
sLIGATURE AYIN-DALETH
9gSOGDIAN LETTER ALEPH
vBETH
vGIMEL
vHE
vWAW
vZAYIN
vHETH
vYODH
vKAPH
vLAMEDH
vMEM
vNUN
vSAMEKH
vAYIN
vPE
vSADHE
vRESH-AYIN
vSHIN
vTAW
vFETH
vLESH
oINDEPENDENT SHIN
oCOMBINING DOT BELOW
yTWO DOTS BELOW
yDOT ABOVE
yTWO DOTS ABOVE
yCURVE ABOVE
zURVE BELOW
yHOOK ABOVE
zOOK BELOW
yLONG HOOK BELOW
yRESH BELOW
ySTROKE BELOW
oNUMBER ONE
vTEN
wWENTY
vONE HUNDRED
oPUNCTUATION TWO VERTICAL BARS
z TWO VERTICAL BARS WITH DOTS
z CIRCLE WITH DOT
z TWO CIRCLES WITH DOTS
z HALF CIRCLE WITH DOT
17gOLD UYGHUR LETTER ALEPH
yBETH
yGIMEL-HETH
yWAW
yZAYIN
yFINAL HETH
yYODH
yKAPH
yLAMEDH
yMEM
yNUN
ySAMEKH
yPE
ySADHE
yRESH
ySHIN
yTAW
yLESH
rCOMBINING DOT ABOVE
zG DOT BELOW
zG TWO DOTS ABOVE
zG TWO DOTS BELOW
rPUNCTUATION BAR
zION TWO BARS
zION TWO DOTS
zION FOUR DOTS
27gCHORASMIAN LETTER ALEPH
ySMALL ALEPH
yBETH
yGIMEL
yDALETH
yHE
yWAW
yCURLED WAW
yZAYIN
yHETH
yYODH
yKAPH
yLAMEDH
yMEM
yNUN
ySAMEKH
yAYIN
yPE
yRESH
ySHIN
yTAW
rNUMBER ONE
yTWO
zHREE
yFOUR
yTEN
zWENTY
yONE HUNDRED
15gELYMAIC LETTER ALEPH
vBETH
vGIMEL
vDALETH
vHE
vWAW
vZAYIN
vHETH
vTETH
vYODH
vKAPH
vLAMEDH
vMEM
vNUN
vSAMEKH
vAYIN
vPE
vSADHE
vQOPH
vRESH
vSHIN
vTAW
pIGATURE ZAYIN-YODH
agBRAHMI SIGN CANDRABINDU
sANUSVARA
sVISARGA
sJIHVAMULIYA
sUPADHMANIYA
nLETTER A
vA
uI
vI
uU
vU
uVOCALIC R
zIC RR
zIC L
zIC LL
uE
uAI
uO
uAU
uKA
vHA
uGA
vHA
uNGA
uCA
vHA
uJA
vHA
uNYA
uTTA
wHA
uDDA
wHA
uNNA
uTA
vHA
uDA
vHA
uNA
uPA
vHA
uBA
vHA
uMA
uYA
uRA
uLA
uVA
uSHA
vSA
vA
uHA
uLLA
uOLD TAMIL LLLA
zAMIL RRA
zAMIL NNNA
nVOWEL SIGN AA
yBHATTIPROLU AA
yI
zI
yU
zU
yVOCALIC R
zOCALIC RR
zOCALIC L
zOCALIC LL
yE
yAI
yO
yAU
oIRAMA
nDANDA
oOUBLE DANDA
nPUNCTUATION DOT
zDOUBLE DOT
zLINE
zCRESCENT BAR
zLOTUS
5nNUMBER ONE
uTWO
vHREE
uFOUR
vIVE
uSIX
vEVEN
uEIGHT
uNINE
uTEN
vWENTY
vHIRTY
uFORTY
vIFTY
uSIXTY
vEVENTY
uEIGHTY
uNINETY
uONE HUNDRED
yTHOUSAND
nDIGIT ZERO
tONE
tTWO
uHREE
tFOUR
uIVE
tSIX
uEVEN
tEIGHT
tNINE
nSIGN OLD TAMIL VIRAMA
nLETTER OLD TAMIL SHORT E
zAMIL SHORT O
nVOWEL SIGN OLD TAMIL SHORT E
zLD TAMIL SHORT O
nLETTER OLD TAMIL LLA
anNUMBER JOINER
gKAITHI SIGN CANDRABINDU
sANUSVARA
sVISARGA
nLETTER A
vA
uI
vI
uU
vU
uE
uAI
uO
uAU
uKA
vHA
uGA
vHA
uNGA
uCA
vHA
uJA
vHA
uNYA
uTTA
wHA
uDDA
wDHA
wHA
uRHA
uNNA
uTA
vHA
uDA
vHA
uNA
uPA
vHA
uBA
vHA
uMA
uYA
uRA
uLA
uVA
uSHA
vSA
vA
uHA
nVOWEL SIGN AA
yI
zI
yU
zU
yE
yAI
yO
yAU
nSIGN VIRAMA
sNUKTA
nABBREVIATION SIGN
nENUMERATION SIGN
nNUMBER SIGN
nSECTION MARK
nDOUBLE SECTION MARK
oANDA
oOUBLE DANDA
nVOWEL SIGN VOCALIC R
bnNUMBER SIGN ABOVE
3gSORA SOMPENG LETTER SAH
z TAH
z BAH
z CAH
z DAH
z GAH
z MAH
z NGAH
z LAH
z NAH
z VAH
z PAH
z YAH
z RAH
z HAH
z KAH
z JAH
z NYAH
z AH
z EEH
z IH
z UH
z OH
z EH
z MAE
8tDIGIT ZERO
zONE
zTWO
zTHREE
zFOUR
zFIVE
zSIX
zSEVEN
zEIGHT
zNINE
7gCHAKMA SIGN CANDRABINDU
sANUSVARA
sVISARGA
nLETTER AA
uI
uU
uE
uKAA
vHAA
uGAA
vHAA
uNGAA
uCAA
vHAA
uJAA
vHAA
uNYAA
uTTAA
wHAA
uDDAA
wHAA
uNNAA
uTAA
vHAA
uDAA
vHAA
uNAA
uPAA
vHAA
uBAA
vHAA
uMAA
uYYAA
vAA
uRAA
uLAA
uWAA
uSAA
uHAA
nVOWEL SIGN A
yI
zI
yU
zU
yE
yAI
yO
yAU
yOI
nO MARK
nAU MARK
nVIRAMA
nMAAYYAA
2nDIGIT ZERO
tONE
tTWO
uHREE
tFOUR
uIVE
tSIX
uEVEN
tEIGHT
tNINE
nSECTION MARK
nDANDA
oOUBLE DANDA
nQUESTION MARK
nLETTER LHAA
nVOWEL SIGN AA
yEI
nLETTER VAA
9gMAHAJANI LETTER A
wI
wU
wE
wO
wKA
xHA
wGA
xHA
wCA
xHA
wJA
xHA
wNYA
wTTA
yHA
wDDA
yHA
wNNA
wTA
xHA
wDA
xHA
wNA
wPA
xHA
wBA
xHA
wMA
wRA
wLA
wVA
wSA
wHA
wRRA
pSIGN NUKTA
pABBREVIATION SIGN
pSECTION MARK
pLIGATURE SHRI
agSHARADA SIGN CANDRABINDU
tANUSVARA
tVISARGA
oLETTER A
wA
vI
wI
vU
wU
vVOCALIC R
zLIC RR
zLIC L
zLIC LL
vE
vAI
vO
vAU
vKA
wHA
vGA
wHA
vNGA
vCA
wHA
vJA
wHA
vNYA
vTTA
xHA
vDDA
xHA
vNNA
vTA
wHA
vDA
wHA
vNA
vPA
wHA
vBA
wHA
vMA
vYA
vRA
vLA
wLA
vVA
vSHA
wSA
wA
vHA
oVOWEL SIGN AA
zI
zII
zU
zUU
zVOCALIC R
zVOCALIC RR
zVOCALIC L
zVOCALIC LL
zE
zAI
zO
zAU
oSIGN VIRAMA
tAVAGRAHA
tJIHVAMULIYA
tUPADHMANIYA
oOM
oDANDA
pOUBLE DANDA
oABBREVIATION SIGN
oSEPARATOR
pANDHI MARK
pIGN NUKTA
oVOWEL MODIFIER MARK
oEXTRA SHORT VOWEL MARK
oSUTRA MARK
oVOWEL SIGN PRISHTHAMATRA E
oSIGN INVERTED CANDRABINDU
oDIGIT ZERO
uONE
uTWO
vHREE
uFOUR
vIVE
uSIX
vEVEN
uEIGHT
uNINE
oEKAM
oSIGN SIDDHAM
oHEADSTROKE
oCONTINUATION SIGN
oSECTION MARK-1
zK-2
2hINHALA ARCHAIC DIGIT ONE
zIT TWO
zIT THREE
zIT FOUR
zIT FIVE
zIT SIX
zIT SEVEN
zIT EIGHT
zIT NINE
wNUMBER TEN
zBER TWENTY
zBER THIRTY
zBER FORTY
zBER FIFTY
zBER SIXTY
zBER SEVENTY
zBER EIGHTY
zBER NINETY
zBER ONE HUNDRED
zBER ONE THOUSAND
cgKHOJKI LETTER A
vA
uI
uU
uE
uAI
uO
uAU
uKA
vHA
uGA
vGA
vHA
uNGA
uCA
vHA
uJA
vJA
2uNYA
uTTA
wHA
uDDA
wHA
uNNA
uTA
vHA
uDA
vDDA
vHA
uNA
uPA
vHA
uBA
vBA
vHA
uMA
uYA
uRA
uLA
uVA
uSA
uHA
uLLA
nVOWEL SIGN AA
yI
zI
yU
yE
yAI
yO
yAU
nSIGN ANUSVARA
sVIRAMA
sNUKTA
sSHADDA
nDANDA
oOUBLE DANDA
nWORD SEPARATOR
nSECTION MARK
nDOUBLE SECTION MARK
nABBREVIATION SIGN
nSIGN SUKUN
nLETTER QA
uSHORT I
nVOWEL SIGN VOCALIC R
3fgMULTANI LETTER A
vI
vU
vE
vKA
wHA
vGA
2wHA
2vCA
wHA
vJA
wJA
2vNYA
vTTA
xHA
vDDA
xDA
xHA
vNNA
vTA
wHA
vDA
wHA
vNA
vPA
wHA
vBA
2wHA
vMA
vYA
vRA
vLA
vVA
vSA
vHA
vRRA
wHA
oSECTION MARK
7gKHUDAWADI LETTER A
yA
xI
yI
xU
yU
xE
xAI
xO
xAU
xKA
yHA
xGA
yGA
yHA
xNGA
xCA
yHA
xJA
yJA
yHA
xNYA
xTTA
zHA
xDDA
zDA
xRRA
xDDHA
xNNA
xTA
yHA
xDA
yHA
xNA
xPA
yHA
xBA
yBA
yHA
xMA
xYA
xRA
xLA
xVA
xSHA
yA
xHA
qSIGN ANUSVARA
qVOWEL SIGN AA
zN I
zN II
zN U
zN UU
zN E
zN AI
zN O
zN AU
qSIGN NUKTA
vVIRAMA
6qDIGIT ZERO
wONE
wTWO
xHREE
wFOUR
xIVE
wSIX
xEVEN
wEIGHT
wNINE
7gGRANTHA SIGN COMBINING ANUSVARA ABOVE
uANDRABINDU
tANUSVARA
tVISARGA
2oLETTER A
wA
vI
wI
vU
wU
vVOCALIC R
zLIC L
3vEE
vAI
3vOO
vAU
vKA
wHA
vGA
wHA
vNGA
vCA
wHA
vJA
wHA
vNYA
vTTA
xHA
vDDA
xHA
vNNA
vTA
wHA
vDA
wHA
vNA
2vPA
wHA
vBA
wHA
vMA
vYA
vRA
2vLA
wLA
2vVA
vSHA
wSA
wA
vHA
2gCOMBINING BINDU BELOW
gGRANTHA SIGN NUKTA
tAVAGRAHA
oVOWEL SIGN AA
zI
zII
zU
zUU
zVOCALIC R
zVOCALIC RR
3zEE
zAI
3zOO
zAU
oSIGN VIRAMA
3oOM
7oAU LENGTH MARK
6oSIGN PLUTA
oLETTER VEDIC ANUSVARA
zC DOUBLE ANUSVARA
wOCALIC RR
zLIC LL
oVOWEL SIGN VOCALIC L
zVOCALIC LL
3gCOMBINING GRANTHA DIGIT ZERO
zIGIT ONE
zIGIT TWO
zIGIT THREE
zIGIT FOUR
zIGIT FIVE
zIGIT SIX
4yLETTER A
zETTER KA
zETTER NA
zETTER VI
zETTER PA
8cgNEWA LETTER A
tA
sI
tI
sU
tU
sVOCALIC R
z RR
z L
z LL
sE
sAI
sO
sAU
sKA
tHA
sGA
tHA
sNGA
uHA
sCA
tHA
sJA
tHA
sNYA
uHA
sTTA
uHA
sDDA
uHA
sNNA
sTA
tHA
sDA
tHA
sNA
tHA
sPA
tHA
sBA
tHA
sMA
tHA
sYA
sRA
tHA
sLA
tHA
sWA
sSHA
tSA
tA
sHA
lVOWEL SIGN AA
wI
xI
wU
xU
wVOCALIC R
zALIC RR
zALIC L
zALIC LL
wE
wAI
wO
wAU
lSIGN VIRAMA
qCANDRABINDU
qANUSVARA
qVISARGA
qNUKTA
qAVAGRAHA
qFINAL ANUSVARA
lOM
lSIDDHI
lDANDA
mOUBLE DANDA
lCOMMA
lGAP FILLER
lABBREVIATION SIGN
lDIGIT ZERO
rONE
rTWO
sHREE
rFOUR
sIVE
rSIX
sEVEN
rEIGHT
rNINE
mOUBLE COMMA
lPLACEHOLDER MARK
2lINSERTION SIGN
lSANDHI MARK
lLETTER VEDIC ANUSVARA
lSIGN JIHVAMULIYA
qUPADHMANIYA
1fgTIRHUTA ANJI
oLETTER A
wA
vI
wI
vU
wU
vVOCALIC R
zLIC RR
zLIC L
zLIC LL
vE
vAI
vO
vAU
vKA
wHA
vGA
wHA
vNGA
vCA
wHA
vJA
wHA
vNYA
vTTA
xHA
vDDA
xHA
vNNA
vTA
wHA
vDA
wHA
vNA
vPA
wHA
vBA
wHA
vMA
vYA
vRA
vLA
vVA
vSHA
wSA
wA
vHA
oVOWEL SIGN AA
zI
zII
zU
zUU
zVOCALIC R
zVOCALIC RR
zVOCALIC L
zVOCALIC LL
zE
zSHORT E
zAI
zO
zSHORT O
zAU
oSIGN CANDRABINDU
tANUSVARA
tVISARGA
vRAMA
tNUKTA
tAVAGRAHA
oGVANG
oABBREVIATION SIGN
oOM
9oDIGIT ZERO
uONE
uTWO
vHREE
uFOUR
vIVE
uSIX
vEVEN
uEIGHT
uNINE
a7gSIDDHAM LETTER A
wA
vI
wI
vU
wU
vVOCALIC R
zLIC RR
zLIC L
zLIC LL
vE
vAI
vO
vAU
vKA
wHA
vGA
wHA
vNGA
vCA
wHA
vJA
wHA
vNYA
vTTA
xHA
vDDA
xHA
vNNA
vTA
wHA
vDA
wHA
vNA
vPA
wHA
vBA
wHA
vMA
vYA
vRA
vLA
vVA
vSHA
wSA
wA
vHA
oVOWEL SIGN AA
zI
zII
zU
zUU
zVOCALIC R
zVOCALIC RR
3zE
zAI
zO
zAU
oSIGN CANDRABINDU
tANUSVARA
tVISARGA
vRAMA
tNUKTA
tSIDDHAM
oDANDA
pOUBLE DANDA
oSEPARATOR DOT
yBAR
oREPETITION MARK-1
zMARK-2
zMARK-3
oEND OF TEXT MARK
oSECTION MARK WITH TRIDENT AND U-SHAPED ORNAMENTS
zK WITH TRIDENT AND DOTTED CRESCENTS
zK WITH RAYS AND DOTTED CRESCENTS
zK WITH RAYS AND DOTTED DOUBLE CRESCENTS
zK WITH RAYS AND DOTTED TRIPLE CRESCENTS
zK DOUBLE RING
zK DOUBLE RING WITH RAYS
zK WITH DOUBLE CRESCENTS
zK WITH TRIPLE CRESCENTS
zK WITH QUADRUPLE CRESCENTS
zK WITH SEPTUPLE CRESCENTS
zK WITH CIRCLES AND RAYS
zK WITH CIRCLES AND TWO ENCLOSURES
zK WITH CIRCLES AND FOUR ENCLOSURES
oLETTER THREE-CIRCLE ALTERNATE I
wWO-CIRCLE ALTERNATE I
zCIRCLE ALTERNATE II
vALTERNATE U
oVOWEL SIGN ALTERNATE U
zALTERNATE UU
23gMODI LETTER A
tA
sI
tI
sU
tU
sVOCALIC R
z RR
z L
z LL
sE
sAI
sO
sAU
sKA
tHA
sGA
tHA
sNGA
sCA
tHA
sJA
tHA
sNYA
sTTA
uHA
sDDA
uHA
sNNA
sTA
tHA
sDA
tHA
sNA
sPA
tHA
sBA
tHA
sMA
sYA
sRA
sLA
sVA
sSHA
tSA
tA
sHA
sLLA
lVOWEL SIGN AA
wI
xI
wU
xU
wVOCALIC R
zALIC RR
zALIC L
zALIC LL
wE
wAI
wO
wAU
lSIGN ANUSVARA
qVISARGA
sRAMA
qARDHACANDRA
lDANDA
mOUBLE DANDA
lABBREVIATION SIGN
lSIGN HUVA
clDIGIT ZERO
rONE
rTWO
sHREE
rFOUR
sIVE
rSIX
sEVEN
rEIGHT
rNINE
7iNGOLIAN BIRGA WITH ORNAMENT
qROTATED BIRGA
qDOUBLE BIRGA WITH ORNAMENT
qTRIPLE BIRGA WITH ORNAMENT
qBIRGA WITH DOUBLE ORNAMENT
qROTATED BIRGA WITH ORNAMENT
zIRGA WITH DOUBLE ORNAMENT
qINVERTED BIRGA
zBIRGA WITH DOUBLE ORNAMENT
qSWIRL BIRGA
zGA WITH ORNAMENT
zGA WITH DOUBLE ORNAMENT
qTURNED SWIRL BIRGA WITH DOUBLE ORNAMENT
14gTAKRI LETTER A
uA
tI
uI
tU
uU
tE
tAI
tO
tAU
tKA
uHA
tGA
uHA
tNGA
tCA
uHA
tJA
uHA
tNYA
tTTA
vHA
tDDA
vHA
tNNA
tTA
uHA
tDA
uHA
tNA
tPA
uHA
tBA
uHA
tMA
tYA
tRA
tLA
tVA
tSHA
uA
tHA
tRRA
mSIGN ANUSVARA
rVISARGA
mVOWEL SIGN AA
xI
yI
xU
yU
xE
xAI
xO
xAU
mSIGN VIRAMA
rNUKTA
mLETTER ARCHAIC KHA
mABBREVIATION SIGN
7mDIGIT ZERO
sONE
sTWO
tHREE
sFOUR
tIVE
sSIX
tEVEN
sEIGHT
sNINE
37gAHOM LETTER KA
tHA
sNGA
tA
sTA
sALTERNATE TA
sPA
tHA
sBA
sMA
sJA
sCHA
sTHA
sRA
sLA
sSA
sNYA
sHA
sA
sDA
tHA
sGA
sALTERNATE GA
sGHA
sBHA
sJHA
sALTERNATE BA
3lCONSONANT SIGN MEDIAL LA
z MEDIAL RA
z MEDIAL LIGATING RA
lVOWEL SIGN A
xA
wI
xI
wU
xU
wE
wAW
wO
wAI
xM
lSIGN KILLER
5lDIGIT ZERO
rONE
rTWO
sHREE
rFOUR
sIVE
rSIX
sEVEN
rEIGHT
rNINE
lNUMBER TEN
tWENTY
lSIGN SMALL SECTION
rECTION
qRULAI
mYMBOL VI
lLETTER CA
sTTA
uHA
sDDA
uHA
sNNA
sLLA
bagDOGRA LETTER A
uA
tI
uI
tU
uU
tE
tAI
tO
tAU
tKA
uHA
tGA
uHA
tNGA
tCA
uHA
tJA
uHA
tNYA
tTTA
vHA
tDDA
vHA
tNNA
tTA
uHA
tDA
uHA
tNA
tPA
uHA
tBA
uHA
tMA
tYA
tRA
tLA
tVA
tSHA
uSA
uA
tHA
tRRA
mVOWEL SIGN AA
xI
yI
xU
yU
xVOCALIC R
zCALIC RR
xE
xAI
xO
xAU
mSIGN ANUSVARA
rVISARGA
tRAMA
rNUKTA
mABBREVIATION SIGN
65gWARANG CITI CAPITAL LETTER NGAA
z LETTER A
z LETTER WI
z LETTER YU
z LETTER YA
z LETTER YO
z LETTER II
z LETTER UU
z LETTER E
z LETTER O
z LETTER ANG
z LETTER GA
z LETTER KO
z LETTER ENY
z LETTER YUJ
z LETTER UC
z LETTER ENN
z LETTER ODD
z LETTER TTE
z LETTER NUNG
z LETTER DA
z LETTER AT
z LETTER AM
z LETTER BU
z LETTER PU
z LETTER HIYO
z LETTER HOLO
z LETTER HORR
z LETTER HAR
z LETTER SSUU
z LETTER SII
z LETTER VIYO
sSMALL LETTER NGAA
zETTER A
zETTER WI
zETTER YU
zETTER YA
zETTER YO
zETTER II
zETTER UU
zETTER E
zETTER O
zETTER ANG
zETTER GA
zETTER KO
zETTER ENY
zETTER YUJ
zETTER UC
zETTER ENN
zETTER ODD
zETTER TTE
zETTER NUNG
zETTER DA
zETTER AT
zETTER AM
zETTER BU
zETTER PU
zETTER HIYO
zETTER HOLO
zETTER HORR
zETTER HAR
zETTER SSUU
zETTER SII
zETTER VIYO
sDIGIT ZERO
yONE
yTWO
zHREE
yFOUR
zIVE
ySIX
zEVEN
yEIGHT
yNINE
sNUMBER TEN
zTWENTY
zTHIRTY
zFORTY
zFIFTY
zSIXTY
zSEVENTY
zEIGHTY
zNINETY
dsOM
gDIVES AKURU LETTER A
zAA
zI
zII
zU
zUU
zE
3zO
3zKA
zKHA
zGA
zGHA
zNGA
zCA
zCHA
zJA
2zNYA
zTTA
2zDDA
zDDHA
zNNA
zTA
zTHA
zDA
zDHA
zNA
zPA
zPHA
zBA
zBHA
zMA
zYA
zYYA
zRA
zLA
zVA
zSHA
zSSA
zSA
zHA
zLLA
zZA
sVOWEL SIGN AA
zIGN I
zIGN II
zIGN U
zIGN UU
zIGN E
2zIGN AI
zIGN O
3sSIGN ANUSVARA
xCANDRABINDU
xHALANTA
sVIRAMA
sPREFIXED NASAL SIGN
sMEDIAL YA
sINITIAL RA
sMEDIAL RA
sSIGN NUKTA
sDOUBLE DANDA
sGAP FILLER
sEND OF TEXT MARK
asDIGIT ZERO
yONE
yTWO
zHREE
yFOUR
zIVE
ySIX
zEVEN
yEIGHT
yNINE
47gNANDINAGARI LETTER A
zAA
zI
zII
zU
zUU
zVOCALIC R
zVOCALIC RR
3zE
zAI
zO
zAU
zKA
zKHA
zGA
zGHA
zNGA
zCA
zCHA
zJA
zJHA
zNYA
zTTA
zTTHA
zDDA
zDDHA
zNNA
zTA
zTHA
zDA
zDHA
zNA
zPA
zPHA
zBA
zBHA
zMA
zYA
zRA
zLA
zVA
zSHA
zSSA
zSA
zHA
zLLA
zRRA
sVOWEL SIGN AA
zIGN I
zIGN II
zIGN U
zIGN UU
zIGN VOCALIC R
zIGN VOCALIC RR
3zIGN E
zIGN AI
zIGN O
zIGN AU
sSIGN ANUSVARA
xVISARGA
zRAMA
xAVAGRAHA
xSIDDHAM
sHEADSTROKE
sVOWEL SIGN PRISHTHAMATRA E
1cgZANABAZAR SQUARE LETTER A
xVOWEL SIGN I
zWEL SIGN UE
zWEL SIGN U
zWEL SIGN E
zWEL SIGN OE
zWEL SIGN O
zWEL SIGN AI
zWEL SIGN AU
zWEL SIGN REVERSED I
zWEL LENGTH MARK
xLETTER KA
zTTER KHA
zTTER GA
zTTER GHA
zTTER NGA
zTTER CA
zTTER CHA
zTTER JA
zTTER NYA
zTTER TTA
zTTER TTHA
zTTER DDA
zTTER DDHA
zTTER NNA
zTTER TA
zTTER THA
zTTER DA
zTTER DHA
zTTER NA
zTTER PA
zTTER PHA
zTTER BA
zTTER BHA
zTTER MA
zTTER TSA
zTTER TSHA
zTTER DZA
zTTER DZHA
zTTER ZHA
zTTER ZA
zTTER -A
zTTER YA
zTTER RA
zTTER LA
zTTER VA
zTTER SHA
zTTER SSA
zTTER SA
zTTER HA
zTTER KSSA
xFINAL CONSONANT MARK
xSIGN VIRAMA
zGN CANDRABINDU
zGN CANDRABINDU WITH ORNAMENT
zGN CANDRA WITH ORNAMENT
zGN ANUSVARA
zGN VISARGA
xCLUSTER-INITIAL LETTER RA
zUSTER-FINAL LETTER YA
zUSTER-FINAL LETTER RA
zUSTER-FINAL LETTER LA
zUSTER-FINAL LETTER VA
xINITIAL HEAD MARK
xCLOSING HEAD MARK
xMARK TSHEG
zRK SHAD
zRK DOUBLE SHAD
zRK LONG TSHEG
xINITIAL DOUBLE-LINED HEAD MARK
xCLOSING DOUBLE-LINED HEAD MARK
xSUBJOINER
9gSOYOMBO LETTER A
oVOWEL SIGN I
zUE
zU
zE
zO
zOE
zAI
zAU
zVOCALIC R
zVOCALIC L
uLENGTH MARK
oLETTER KA
wHA
vGA
wHA
vNGA
vCA
wHA
vJA
wHA
vNYA
vTTA
xHA
vDDA
xHA
vNNA
vTA
wHA
vDA
wHA
vNA
vPA
wHA
vBA
wHA
vMA
vTSA
xHA
vDZA
vZHA
wA
v-A
vYA
vRA
vLA
vVA
vSHA
wSA
wA
vHA
vKSSA
oSIGN JIHVAMULIYA
tUPADHMANIYA
oCLUSTER-INITIAL LETTER RA
zTIAL LETTER LA
zTIAL LETTER SHA
zTIAL LETTER SA
oFINAL CONSONANT SIGN G
zNANT SIGN K
zNANT SIGN NG
zNANT SIGN D
zNANT SIGN N
zNANT SIGN B
zNANT SIGN M
zNANT SIGN R
zNANT SIGN L
zNANT SIGN SH
zNANT SIGN S
zNANT SIGN -A
oSIGN ANUSVARA
tVISARGA
oGEMINATION MARK
oSUBJOINER
oMARK TSHEG
tSHAD
tDOUBLE SHAD
tPLUTA
oHEAD MARK WITH MOON AND SUN AND TRIPLE FLAME
zITH MOON AND SUN AND FLAME
zITH MOON AND SUN
oTERMINAL MARK-1
zRK-2
egCANADIAN SYLLABICS NATTILIK HI
zNATTILIK HII
zNATTILIK HO
zNATTILIK HOO
zNATTILIK HA
zNATTILIK HAA
zNATTILIK SHRI
zNATTILIK SHRII
zNATTILIK SHRO
zNATTILIK SHROO
zNATTILIK SHRA
zNATTILIK SHRAA
zSPE
zSPI
zSPO
zSPA
gPAU CIN HAU LETTER PA
zKA
zLA
zMA
zDA
zZA
zVA
zNGA
zHA
zGA
zKHA
zSA
zBA
zCA
zTA
zTHA
zNA
zPHA
zRA
zFA
zCHA
zA
zE
zI
zO
zU
zUA
zIA
zFINAL P
zFINAL K
zFINAL T
zFINAL M
zFINAL N
zFINAL L
zFINAL W
zFINAL NG
zFINAL Y
sRISING TONE LONG
zTONE
sSANDHI GLOTTAL STOP
sRISING TONE LONG FINAL
zTONE FINAL
sSANDHI GLOTTAL STOP FINAL
zTONE LONG
zTONE
zTONE LONG FINAL
zTONE FINAL
sMID-LEVEL TONE
sGLOTTAL STOP VARIANT
sMID-LEVEL TONE LONG FINAL
zEL TONE FINAL
sLOW-FALLING TONE LONG
zLING TONE
sGLOTTAL STOP
sLOW-FALLING TONE LONG FINAL
zLING TONE FINAL
sGLOTTAL STOP FINAL
8gDEVANAGARI HEAD MARK
zK WITH HEADSTROKE
rSIGN BHALE
zLE WITH HOOK
wEXTENDED BHALE
zENDED BHALE WITH HOOK
wWESTERN FIVE-LIKE BHALE
zTERN NINE-LIKE BHALE
wREVERSED NINE-LIKE BHALE
wMINDU
f7gBHAIKSUKI LETTER A
yA
xI
yI
xU
yU
xVOCALIC R
zCALIC RR
zCALIC L
2xE
xAI
xO
xAU
xKA
yHA
xGA
yHA
xNGA
xCA
yHA
xJA
yHA
xNYA
xTTA
zHA
xDDA
zHA
xNNA
xTA
yHA
xDA
yHA
xNA
xPA
yHA
xBA
yHA
xMA
xYA
xRA
xLA
xVA
xSHA
ySA
yA
xHA
qVOWEL SIGN AA
zN I
zN II
zN U
zN UU
zN VOCALIC R
zN VOCALIC RR
zN VOCALIC L
2zN E
zN AI
zN O
zN AU
qSIGN CANDRABINDU
vANUSVARA
vVISARGA
xRAMA
vAVAGRAHA
qDANDA
rOUBLE DANDA
qWORD SEPARATOR
qGAP FILLER-1
zR-2
bqDIGIT ZERO
wONE
wTWO
xHREE
wFOUR
xIVE
wSIX
xEVEN
wEIGHT
wNINE
qNUMBER ONE
xTWO
yHREE
xFOUR
yIVE
xSIX
yEVEN
xEIGHT
xNINE
xTEN
yWENTY
yHIRTY
xFORTY
yIFTY
xSIXTY
yEVENTY
xEIGHTY
xNINETY
qHUNDREDS UNIT MARK
4gMARCHEN HEAD MARK
oMARK SHAD
oLETTER KA
wHA
vGA
vNGA
vCA
wHA
vJA
vNYA
vTA
wHA
vDA
vNA
vPA
wHA
vBA
vMA
vTSA
xHA
vDZA
vWA
vZHA
wA
v-A
vYA
vRA
vLA
vSHA
wA
vHA
vA
3oSUBJOINED LETTER KA
zETTER KHA
zETTER GA
zETTER NGA
zETTER CA
zETTER CHA
zETTER JA
zETTER NYA
zETTER TA
zETTER THA
zETTER DA
zETTER NA
zETTER PA
zETTER PHA
zETTER BA
zETTER MA
zETTER TSA
zETTER TSHA
zETTER DZA
zETTER WA
zETTER ZHA
zETTER ZA
2zETTER YA
zETTER RA
zETTER LA
zETTER SHA
zETTER SA
zETTER HA
zETTER A
oVOWEL SIGN AA
zI
zU
zE
zO
oSIGN ANUSVARA
tCANDRABINDU
4aiSARAM GONDI LETTER A
zR AA
zR I
zR II
zR U
zR UU
zR E
2zR AI
zR O
2zR AU
zR KA
zR KHA
zR GA
zR GHA
zR NGA
zR CA
zR CHA
zR JA
zR JHA
zR NYA
zR TTA
zR TTHA
zR DDA
zR DDHA
zR NNA
zR TA
zR THA
zR DA
zR DHA
zR NA
zR PA
zR PHA
zR BA
zR BHA
zR MA
zR YA
zR RA
zR LA
zR VA
zR SHA
zR SSA
zR SA
zR HA
zR LLA
zR KSSA
zR JNYA
zR TRA
uVOWEL SIGN AA
z SIGN I
z SIGN II
z SIGN U
z SIGN UU
z SIGN VOCALIC R
4z SIGN E
2z SIGN AI
z SIGN O
2z SIGN AU
uSIGN ANUSVARA
zVISARGA
zNUKTA
zCANDRA
zHALANTA
uVIRAMA
uREPHA
vA-KARA
9uDIGIT ZERO
z ONE
z TWO
z THREE
z FOUR
z FIVE
z SIX
z SEVEN
z EIGHT
z NINE
7gGUNJALA GONDI LETTER A
zR AA
zR I
zR II
zR U
zR UU
2zR EE
zR AI
2zR OO
zR AU
zR YA
zR VA
zR BA
zR BHA
zR MA
zR KA
zR KHA
zR TA
zR THA
zR LA
zR GA
zR GHA
zR DA
zR DHA
zR NA
zR CA
zR CHA
zR TTA
zR TTHA
zR LLA
zR JA
zR JHA
zR DDA
zR DDHA
zR NGA
zR PA
zR PHA
zR HA
zR RA
zR SA
uVOWEL SIGN AA
z SIGN I
z SIGN II
z SIGN U
z SIGN UU
2z SIGN EE
z SIGN AI
2z SIGN OO
z SIGN AU
uSIGN ANUSVARA
zVISARGA
uVIRAMA
uOM
8uDIGIT ZERO
z ONE
z TWO
z THREE
z FOUR
z FIVE
z SIX
z SEVEN
z EIGHT
z NINE
137gMAKASAR LETTER KA
vGA
vNGA
vPA
vBA
vMA
vTA
vDA
vNA
vCA
vJA
vNYA
vYA
vRA
vLA
vVA
vSA
vA
oANGKA
oVOWEL SIGN I
zU
zE
zO
oPASSIMBANG
oEND OF SECTION
8gKAWI SIGN CANDRABINDU
qANUSVARA
qREPHA
qVISARGA
lLETTER A
tA
sI
tI
sU
tU
sVOCALIC R
z RR
z L
z LL
sE
sAI
sO
2sKA
tHA
sGA
tHA
sNGA
sCA
tHA
sJA
tHA
sNYA
sTTA
uHA
sDDA
uHA
sNNA
sTA
tHA
sDA
tHA
sNA
sPA
tHA
sBA
tHA
sMA
sYA
sRA
sLA
sWA
sSHA
tSA
tA
sHA
sJNYA
lVOWEL SIGN AA
xLTERNATE AA
wI
xI
wU
xU
wVOCALIC R
4wE
wAI
wEU
lSIGN KILLER
lCONJOINER
lDANDA
mOUBLE DANDA
lPUNCTUATION SECTION MARKER
xALTERNATE SECTION MARKER
xFLOWER
xSPACE FILLER
xDOT
zUBLE DOT
xTRIPLE DOT
xCIRCLE
xFILLED CIRCLE
xSPIRAL
xCLOSING SPIRAL
lDIGIT ZERO
rONE
rTWO
sHREE
rFOUR
sIVE
rSIX
sEVEN
rEIGHT
rNINE
57gLISU LETTER YHA
10gTAMIL FRACTION ONE THREE-HUNDRED-AND-TWENTIETH
zONE-HUNDRED-AND-SIXTIETH
zEIGHTIETH
zSIXTY-FOURTH
zFORTIETH
zTHIRTY-SECOND
vTHREE EIGHTIETHS
zE SIXTY-FOURTHS
vONE TWENTIETH
zSIXTEENTH-1
zSIXTEENTH-2
zTENTH
zEIGHTH
vTHREE TWENTIETHS
zE SIXTEENTHS
vONE FIFTH
zQUARTER
zHALF-1
zHALF-2
vTHREE QUARTERS
vDOWNSCALING FACTOR KIIZH
mSIGN NEL
rCEVITU
rAAZHAAKKU
rUZHAKKU
rMUUVUZHAKKU
rKURUNI
rPATHAKKU
rMUKKURUNI
rKAACU
rPANAM
sON
rVARAAKAN
rPAARAM
rKUZHI
rVELI
mWET CULTIVATION SIGN
mDRY CULTIVATION SIGN
mLAND SIGN
mSALT PAN SIGN
mTRADITIONAL CREDIT SIGN
yNUMBER SIGN
mCURRENT SIGN
mAND ODD SIGN
mSPENT SIGN
mTOTAL SIGN
mIN POSSESSION SIGN
mSTARTING FROM SIGN
nIGN MUTHALIYA
rVAKAIYARAA
emPUNCTUATION END OF TEXT
gCUNEIFORM SIGN A
w TIMES A
zMES BAD
zMES GAN2 TENU
zMES HA
zMES IGI
zMES LAGAR GUNU
zMES MUSH
zMES SAG
w2
wB
x TIMES ASH2
zIMES DUN3 GUNU
zIMES GAL
zIMES GAN2 TENU
zIMES HA
zIMES IGI GUNU
zIMES IMIN
zIMES LAGAB
zIMES SHESH
zIMES U PLUS U PLUS U
yGUNU
x2
y TIMES BALAG
zTIMES GAN2 TENU
zTIMES ME PLUS EN
zTIMES SHA3
zTIMES TAK4
wD
wK
x TIMES ERIN2
zIMES SHITA PLUS GISH
wL
x TIMES AL
zIMES DIM2
zIMES GISH
zIMES HA
zIMES KAD3
zIMES KI
zIMES SHE
zIMES USH
xAN
xEPH
wMAR
z TIMES SHE
wN
x OVER AN
yTHREE TIMES
yPLUS NAGA OPPOSING AN PLUS NAGA
zLUS NAGA SQUARED
xSHE
wPIN
wRAD
z TIMES KUR
xKAB
wSAL2
xH
y ZIDA TENU
zKABA TENU
zOVER ASH TUG2 OVER TUG2 TUG2 OVER TUG2 PAP
zOVER ASH OVER ASH
zOVER ASH OVER ASH CROSSING ASH OVER ASH OVER ASH
y2
yGAB
vBA
xD
xG3
xHAR2
xL
y OVER BAL
yAG
xR
yA2
wI
x TIMES A
zIMES GAR
zIMES IGI GUNU
wU
x OVER BU AB
zVER BU UN
yCROSSING BU
xLUG
zG OVER BULUG
xR
y2
vDA
xG
y KISIM5 TIMES A PLUS MASH
zKISIM5 TIMES AMAR
zKISIM5 TIMES BALAG
zKISIM5 TIMES BI
zKISIM5 TIMES GA
zKISIM5 TIMES GA PLUS MASH
zKISIM5 TIMES GI
zKISIM5 TIMES GIR2
zKISIM5 TIMES GUD
zKISIM5 TIMES HA
zKISIM5 TIMES IR
zKISIM5 TIMES IR PLUS LU
zKISIM5 TIMES KAK
zKISIM5 TIMES LA
zKISIM5 TIMES LU
zKISIM5 TIMES LU PLUS MASH2
zKISIM5 TIMES LUM
zKISIM5 TIMES NE
zKISIM5 TIMES PAP PLUS PAP
zKISIM5 TIMES SI
zKISIM5 TIMES TAK4
zKISIM5 TIMES U2 PLUS GIR2
zKISIM5 TIMES USH
xM
xR
yA3
z4
wI
xB
xM
y TIMES SHE
y2
xN
y KASKAL U GUNU DISH
xSH
wU
x OVER DU
yGUNU
ySHESHIG
xB
y TIMES ESH2
y2
xG
yUD
xH
xN
y3
z GUNU
z GUNU GUNU
y4
xR2
vE
w TIMES PAP
xOVER E NUN OVER NUN
w2
x TIMES A PLUS HA PLUS DA
zIMES GAR
zIMES MI
zIMES SAL
zIMES SHE
zIMES U
wDIN
wGIR
wL
wN
x TIMES GAN2
zIMES GAN2 TENU
zIMES ME
yCROSSING EN
yOPPOSING EN
ySQUARED
wREN
xIN2
wSH2
wZEN
z TIMES A
z TIMES A PLUS LAL
z TIMES A PLUS LAL TIMES LAL
z TIMES AN
z TIMES BAD
z TIMES DUN3 GUNU
z TIMES DUN3 GUNU GUNU
z TIMES HA
z TIMES HA GUNU
z TIMES IGI GUNU
z TIMES KASKAL
z TIMES KASKAL SQUARED
z TIMES KU3
z TIMES LA
z TIMES LAL TIMES LAL
z TIMES LI
z TIMES LU
z TIMES U2
z TIMES UD
vGA
x GUNU
x2
y TIMES A PLUS DA PLUS HA
zTIMES A PLUS HA
zTIMES A PLUS IGI
zTIMES AB2 TENU PLUS TAB
zTIMES AN
zTIMES ASH
zTIMES ASH2 PLUS GAL
zTIMES BAD
zTIMES BAR PLUS RA
zTIMES BUR
zTIMES BUR PLUS RA
zTIMES DA
zTIMES DI
zTIMES DIM TIMES SHE
zTIMES DUB
zTIMES EL
zTIMES EL PLUS LA
zTIMES EN
zTIMES EN TIMES GAN2 TENU
zTIMES GAN2 TENU
zTIMES GAR
zTIMES GI
zTIMES GI4
zTIMES GI4 PLUS A
zTIMES GIR2 PLUS SU
zTIMES HA PLUS LU PLUS ESH2
zTIMES HAL
zTIMES HAL PLUS LA
zTIMES HI PLUS LI
zTIMES HUB2
zTIMES IGI GUNU
zTIMES ISH PLUS HU PLUS ASH
zTIMES KAK
zTIMES KASKAL
zTIMES KID
zTIMES KID PLUS LAL
zTIMES KU3 PLUS AN
zTIMES LA
zTIMES ME PLUS EN
zTIMES MI
zTIMES NUN
zTIMES NUN OVER NUN
zTIMES PA
zTIMES SAL
zTIMES SAR
zTIMES SHE
zTIMES SHE PLUS TUR
zTIMES SHID
zTIMES SUM
zTIMES TAK4
zTIMES U
zTIMES UD
zTIMES UD PLUS DU
zOVER GA2
xBA
z CROSSING GABA
xD
y OVER GAD GAR OVER GAR
xL
y GAD OVER GAD GAR OVER GAR
yAM
xM
xN
y2
z TENU
z OVER GAN2
z CROSSING GAN2
xR
y3
xSHAN
wESHTIN
zTIN TIMES KUR
wI
x TIMES E
zIMES U
yCROSSING GI
x4
y OVER GI4
zCROSSING GI4
xDIM
xR2
z GUNU
y3
z TIMES A PLUS IGI
z TIMES GAN2 TENU
z TIMES IGI
z TIMES LU PLUS IGI
z TIMES PA
xSAL
yH
z CROSSING GISH
z TIMES BAD
z TIMES TAK4
z TENU
wU
x CROSSING GU
x2
y TIMES KAK
zTIMES KAK TIMES IGI GUNU
zTIMES NUN
zTIMES SAL PLUS TUG2
zGUNU
xD
y TIMES A PLUS KUR
zTIMES KUR
zOVER GUD LUGAL
xL
xM
y TIMES SHE
xR
y7
yUN
zSH
vHA
x TENU
yGUNU
xL
wI
x TIMES ASH
zIMES ASH2
zIMES BAD
zIMES DISH
zIMES GAD
zIMES KIN
zIMES NUN
zIMES SHE
zIMES U
wU
xB2
z TIMES AN
z TIMES HAL
z TIMES KASKAL
z TIMES LISH
z TIMES UD
xL2
vI
w A
wB
wDIM
z OVER IDIM BUR
z OVER IDIM SQUARED
wG
xI
y DIB
zRI
zOVER IGI SHIR OVER SHIR UD OVER UD
zGUNU
wL
x TIMES GAN2 TENU
x2
wM
x TIMES TAK4
yCROSSING IM
yOPPOSING IM
ySQUARED
xIN
wN
wR
wSH
vKA
x TIMES A
zIMES AD
zIMES AD PLUS KU3
zIMES ASH2
zIMES BAD
zIMES BALAG
zIMES BAR
zIMES BI
zIMES ERIN2
zIMES ESH2
zIMES GA
zIMES GAL
zIMES GAN2 TENU
zIMES GAR
zIMES GAR PLUS SHA3 PLUS A
zIMES GI
zIMES GIR2
zIMES GISH PLUS SAR
zIMES GISH CROSSING GISH
zIMES GU
zIMES GUR7
zIMES IGI
zIMES IM
zIMES KAK
zIMES KI
zIMES KID
zIMES LI
zIMES LU
zIMES ME
zIMES ME PLUS DU
zIMES ME PLUS GI
zIMES ME PLUS TE
zIMES MI
zIMES MI PLUS NUNUZ
zIMES NE
zIMES NUN
zIMES PI
zIMES RU
zIMES SA
zIMES SAR
zIMES SHA
zIMES SHE
zIMES SHID
zIMES SHU
zIMES SIG
zIMES SUHUR
zIMES TAR
zIMES U
zIMES U2
zIMES UD
zIMES UMUM TIMES PA
zIMES USH
zIMES ZI
x2
y CROSSING KA2
xB
xD2
y3
y4
y5
z OVER KAD5
xK
y TIMES IGI GUNU
xL
y TIMES BAD
zCROSSING KAL
xM2
y4
xSKAL
zAL LAGAB TIMES U OVER LAGAB TIMES U
zAL OVER KASKAL LAGAB TIMES U OVER LAGAB TIMES U
wESH2
wI
x TIMES BAD
zIMES U
zIMES UD
xD
xN
xSAL
yH
yIM5
zM5 OVER KISIM5
wU
x OVER HI TIMES ASH2 KU OVER HI TIMES ASH2
x3
x4
y VARIANT FORM
x7
xL
y GUNU
xN
xR
y OPPOSING KUR
xSHU2
wWU318
vLA
xGAB
zB TIMES A
zB TIMES A PLUS DA PLUS HA
zB TIMES A PLUS GAR
zB TIMES A PLUS LAL
zB TIMES AL
zB TIMES AN
zB TIMES ASH ZIDA TENU
zB TIMES BAD
zB TIMES BI
zB TIMES DAR
zB TIMES EN
zB TIMES GA
zB TIMES GAR
zB TIMES GUD
zB TIMES GUD PLUS GUD
zB TIMES HA
zB TIMES HAL
zB TIMES HI TIMES NUN
zB TIMES IGI GUNU
zB TIMES IM
zB TIMES IM PLUS HA
zB TIMES IM PLUS LU
zB TIMES KI
zB TIMES KIN
zB TIMES KU3
zB TIMES KUL
zB TIMES KUL PLUS HI PLUS A
zB TIMES LAGAB
zB TIMES LISH
zB TIMES LU
zB TIMES LUL
zB TIMES ME
zB TIMES ME PLUS EN
zB TIMES MUSH
zB TIMES NE
zB TIMES SHE PLUS SUM
zB TIMES SHITA PLUS GISH PLUS ERIN2
zB TIMES SHITA PLUS GISH TENU
zB TIMES SHU2
zB TIMES SHU2 PLUS SHU2
zB TIMES SUM
zB TIMES TAG
zB TIMES TAK4
zB TIMES TE PLUS A PLUS SU PLUS NA
zB TIMES U
zB TIMES U PLUS A
zB TIMES U PLUS U PLUS U
zB TIMES U2 PLUS ASH
zB TIMES UD
zB TIMES USH
zB SQUARED
zR
zR TIMES SHE
zR TIMES SHE PLUS SUM
zR GUNU
zR GUNU OVER LAGAR GUNU SHE
xHSHU
xL
y TIMES LAL
xM
y TIMES KUR
zTIMES KUR PLUS RU
wI
xL
xMMU2
xSH
wU
x TIMES BAD
x2
y TIMES AL
zTIMES BAD
zTIMES ESH2
zTIMES ESH2 TENU
zTIMES GAN2 TENU
zTIMES HI TIMES BAD
zTIMES IM
zTIMES KAD2
zTIMES KAD3
zTIMES KAD3 PLUS ASH
zTIMES KI
zTIMES LA PLUS ASH
zTIMES LAGAB
zTIMES ME PLUS EN
zTIMES NE
zTIMES NU
zTIMES SI PLUS ASH
zTIMES SIK2 PLUS BU
zTIMES TUG2
zTENU
zCROSSING LU2
zOPPOSING LU2
zSQUARED
zSHESHIG
x3
xGAL
zL OVER LUGAL
zL OPPOSING LUGAL
zL SHESHIG
xH
xL
xM
y OVER LUM
zOVER LUM GAR OVER GAR
vMA
x TIMES TAK4
yGUNU
x2
xH
xR
xSH
z2
wE
xS
wI
xN
wU
x OVER MU
xG
y GUNU
xNSUB
xRGU2
xSH
z TIMES A
z TIMES KUR
z TIMES ZA
z OVER MUSH
z OVER MUSH TIMES A PLUS NA
z CROSSING MUSH
z3
z3 TIMES A
z3 TIMES A PLUS DI
z3 TIMES DI
z3 GUNU
vNA
x2
xGA
z INVERTED
z TIMES SHU TENU
z OPPOSING NAGA
zR
xM NUTILLU
y
y2
wE
x TIMES A
zIMES UD
ySHESHIG
wI
x TIMES E
x2
xM
y TIMES GAN2 TENU
zTIMES GAR PLUS GAN2 TENU
xNDA2
zA2 TIMES AN
zA2 TIMES ASH
zA2 TIMES ASH PLUS ASH
zA2 TIMES GUD
zA2 TIMES ME PLUS GAN2 TENU
zA2 TIMES NE
zA2 TIMES NUN
zA2 TIMES SHE
zA2 TIMES SHE PLUS A AN
zA2 TIMES SHE PLUS ASH
zA2 TIMES SHE PLUS ASH PLUS ASH
zA2 TIMES U2 PLUS ASH
zA2 TIMES USH
xSAG
wU
x11
xN
y LAGAR TIMES GAR
zLAGAR TIMES MASH
zLAGAR TIMES SAL
zLAGAR TIMES SAL OVER NUN LAGAR TIMES SAL
zLAGAR TIMES USH
zTENU
zOVER NUN
zCROSSING NUN
zCROSSING NUN LAGAR OVER LAGAR
yUZ
zZ AB2 TIMES ASHGAB
zZ AB2 TIMES BI
zZ AB2 TIMES DUG
zZ AB2 TIMES GUD
zZ AB2 TIMES IGI GUNU
zZ AB2 TIMES KAD3
zZ AB2 TIMES LA
zZ AB2 TIMES NE
zZ AB2 TIMES SILA3
zZ AB2 TIMES U2
zZ KISIM5 TIMES BI
zZ KISIM5 TIMES BI U
vPA
xD
xN
xP
wESH2
wI
x TIMES A
zIMES AB
zIMES BI
zIMES BU
zIMES E
zIMES I
zIMES IB
zIMES U
zIMES U2
yCROSSING PI
xRIG
zG TIMES KAL
zG TIMES UD
zG TIMES ZA
zG OPPOSING PIRIG
vRA
xB
wI
wU
vSA
xG NUTILLU
y
y TIMES A
zTIMES DU
zTIMES DUB
zTIMES HA
zTIMES KAK
zTIMES KUR
zTIMES LUM
zTIMES MI
zTIMES NUN
zTIMES SAL
zTIMES SHID
zTIMES TAB
zTIMES U2
zTIMES UB
zTIMES UM
zTIMES UR
zTIMES USH
zOVER SAG
zGUNU
xL
y LAGAB TIMES ASH2
xNGA2
xR
wHA
y3
z TIMES A
z TIMES BAD
z TIMES GISH
z TIMES NE
z TIMES SHU2
z TIMES TUR
z TIMES U
z TIMES U PLUS A
y6
yB6
yR2
xE
y HU
zOVER SHE GAD OVER GAD GAR OVER GAR
zOVER SHE TAB OVER TAB GAR OVER GAR
yG9
yN
ySH
zH2
zHLAM
xID
z TIMES A
z TIMES IM
yM
z TIMES A
z TIMES BAL
z TIMES BULUG
z TIMES DIN
z TIMES GAR
z TIMES IGI
z TIMES IGI GUNU
z TIMES KUSHU2
z TIMES LUL
z TIMES MUG
z TIMES SAL
yNIG
yR
vNU11 TENU
0vSHIR TENU
vNU11 OVER NU11 BUR OVER BUR
0vSHIR OVER SHIR BUR OVER BUR
yTA
xU
y OVER INVERTED SHU
y2
yBUR
wI
x GUNU
xG
y4
z OVER SIG4 SHU2
xK2
xLA3
wU
x OVER SU
xD
y2
xHUR
xM
yASH
xR
y9
vTA
x ASTERISK
yTIMES HI
zIMES MI
yGUNU
xB
y OVER TAB NI OVER NI DISH OVER DISH
zSQUARED
xG
y TIMES BI
zTIMES GUD
zTIMES SHE
zTIMES SHU
zTIMES TUG2
zTIMES UD
xK4
xR
wE
x GUNU
wI
x TENU
xL
xR
y TIMES TAK4
zOVER TIR
zOVER TIR GAD OVER GAD GAR OVER GAR
wU
xG2
xK
xM
xR
y OVER TUR ZA OVER ZA
vU
w GUD
xU U
xOVER U PA OVER PA GAR OVER GAR
zER U SUR OVER SUR
zER U U REVERSED OVER U REVERSED
w2
wB
wD
x KUSHU2
yTIMES BAD
zIMES MI
zIMES U PLUS U PLUS U
zIMES U PLUS U PLUS U GUNU
yGUNU
ySHESHIG
zHESHIG TIMES BAD
xUG
wM
x TIMES LAGAB
zIMES ME PLUS DA
zIMES SHA3
zIMES U
xBIN
xUM
z TIMES KASKAL
z TIMES PA
wN
x GUNU
wR
x CROSSING UR
ySHESHIG
x2
y TIMES A PLUS HA
zTIMES A PLUS NA
zTIMES AL
zTIMES HA
zTIMES NUN
zTIMES U2
zTIMES U2 PLUS ASH
zTIMES U2 PLUS BI
x4
xI
y3
xU
y TIMES A
zTIMES ASHGAB
zTIMES BAR
zTIMES DUN
zTIMES GA
zTIMES GAL
zTIMES GAN2 TENU
zTIMES GAR
zTIMES GU
zTIMES HA
zTIMES IGI
zTIMES IM
zTIMES ISH
zTIMES KI
zTIMES LUM
zTIMES MIN
zTIMES PA
zTIMES SHE
zTIMES SIG4
zTIMES TU
zTIMES U PLUS GUD
zTIMES UD
zTIMES URUDA
yDA
zA TIMES U
wSH
y TIMES A
zTIMES KU
zTIMES KUR
zTIMES TAK4
yX
y2
yUMX
wTUKI
wZ3
y TIMES KASKAL
xU
vZA
x TENU
ySQUARED TIMES KUR
xG
xMX
wE2
wI
x OVER ZI
x3
xB
y KABA TENU
xG
xZ2
wU
x5
y TIMES A
xBUR
xM
vKAP ELAMITE
vAB TIMES NUN
x2 TIMES A
wMAR TIMES KUG
vDAG KISIM5 TIMES U2 PLUS MASH
y3
wISH PLUS SHU
wUB TIMES SHE
vEZEN TIMES GUD
z TIMES SHE
vGA2 TIMES AN PLUS KAK PLUS A
zTIMES ASH2
wE22
wIG
vHUSH
vKA TIMES ANSHE
zIMES ASH3
zIMES GISH
zIMES GUD
zIMES HI TIMES ASH2
zIMES LUM
zIMES PA
zIMES SHUL
zIMES TU
zIMES UR2
vLAGAB TIMES GI
wU2 SHESHIG TIMES BAD
zTIMES ESH2 PLUS LAL
zTIMES SHU
vMESH
wUSH3 TIMES ZA
vNA4
wIN
y9
yDA2 TIMES BAL
zA2 TIMES GI
wU11 ROTATED NINETY DEGREES
vPESH2 ASTERISK
wIR2
vSAG TIMES IGI GUNU
vTI2
vUM TIMES ME
w U
67qNUMERIC SIGN TWO ASH
zIGN THREE ASH
zIGN FOUR ASH
zIGN FIVE ASH
zIGN SIX ASH
zIGN SEVEN ASH
zIGN EIGHT ASH
zIGN NINE ASH
zIGN THREE DISH
zIGN FOUR DISH
zIGN FIVE DISH
zIGN SIX DISH
zIGN SEVEN DISH
zIGN EIGHT DISH
zIGN NINE DISH
zIGN FOUR U
zIGN FIVE U
zIGN SIX U
zIGN SEVEN U
zIGN EIGHT U
zIGN NINE U
zIGN ONE GESH2
zIGN TWO GESH2
zIGN THREE GESH2
zIGN FOUR GESH2
zIGN FIVE GESH2
zIGN SIX GESH2
zIGN SEVEN GESH2
zIGN EIGHT GESH2
zIGN NINE GESH2
zIGN ONE GESHU
zIGN TWO GESHU
zIGN THREE GESHU
zIGN FOUR GESHU
zIGN FIVE GESHU
zIGN TWO SHAR2
zIGN THREE SHAR2
zIGN THREE SHAR2 VARIANT FORM
zIGN FOUR SHAR2
zIGN FIVE SHAR2
zIGN SIX SHAR2
zIGN SEVEN SHAR2
zIGN EIGHT SHAR2
zIGN NINE SHAR2
zIGN ONE SHARU
zIGN TWO SHARU
zIGN THREE SHARU
zIGN THREE SHARU VARIANT FORM
zIGN FOUR SHARU
zIGN FIVE SHARU
zIGN SHAR2 TIMES GAL PLUS DISH
zIGN SHAR2 TIMES GAL PLUS MIN
zIGN ONE BURU
zIGN TWO BURU
zIGN THREE BURU
zIGN THREE BURU VARIANT FORM
zIGN FOUR BURU
zIGN FIVE BURU
zIGN THREE VARIANT FORM ESH16
zIGN THREE VARIANT FORM ESH21
zIGN FOUR VARIANT FORM LIMMU
zIGN FOUR VARIANT FORM LIMMU4
zIGN FOUR VARIANT FORM LIMMU A
zIGN FOUR VARIANT FORM LIMMU B
zIGN SIX VARIANT FORM ASH9
zIGN SEVEN VARIANT FORM IMIN3
zIGN SEVEN VARIANT FORM IMIN A
zIGN SEVEN VARIANT FORM IMIN B
zIGN EIGHT VARIANT FORM USSU
zIGN EIGHT VARIANT FORM USSU3
zIGN NINE VARIANT FORM ILIMMU
zIGN NINE VARIANT FORM ILIMMU3
zIGN NINE VARIANT FORM ILIMMU4
zIGN NINE VARIANT FORM ILIMMU A
zIGN TWO ASH TENU
zIGN THREE ASH TENU
zIGN FOUR ASH TENU
zIGN FIVE ASH TENU
zIGN SIX ASH TENU
zIGN ONE BAN2
zIGN TWO BAN2
zIGN THREE BAN2
zIGN FOUR BAN2
zIGN FOUR BAN2 VARIANT FORM
zIGN FIVE BAN2
zIGN FIVE BAN2 VARIANT FORM
zIGN NIGIDAMIN
zIGN NIGIDAESH
zIGN ONE ESHE3
zIGN TWO ESHE3
zIGN ONE THIRD DISH
zIGN TWO THIRDS DISH
zIGN FIVE SIXTHS DISH
zIGN ONE THIRD VARIANT FORM A
zIGN TWO THIRDS VARIANT FORM A
zIGN ONE EIGHTH ASH
zIGN ONE QUARTER ASH
zIGN OLD ASSYRIAN ONE SIXTH
zIGN OLD ASSYRIAN ONE QUARTER
zIGN ONE QUARTER GUR
zIGN ONE HALF GUR
zIGN ELAMITE ONE THIRD
zIGN ELAMITE TWO THIRDS
zIGN ELAMITE FORTY
zIGN ELAMITE FIFTY
zIGN FOUR U VARIANT FORM
zIGN FIVE U VARIANT FORM
zIGN SIX U VARIANT FORM
zIGN SEVEN U VARIANT FORM
zIGN EIGHT U VARIANT FORM
zIGN NINE U VARIANT FORM
2qPUNCTUATION SIGN OLD ASSYRIAN WORD DIVIDER
zON SIGN VERTICAL COLON
zON SIGN DIAGONAL COLON
zON SIGN DIAGONAL TRICOLON
zON SIGN DIAGONAL QUADCOLON
cqSIGN AB TIMES NUN TENU
zIMES SHU2
wD TIMES ESH2
vBAD TIMES DISH TENU
xHAR2 TIMES AB2
zR2 TIMES NI
zR2 TIMES ZA
wU OVER BU TIMES NA2
vDA TIMES TAK4
xG TIMES KUR
wIM TIMES IGI
zTIMES U U U
y2 TIMES UD
wUG TIMES ANSHE
zTIMES ASH
zTIMES ASH AT LEFT
zTIMES DIN
zTIMES DUN
zTIMES ERIN2
zTIMES GA
zTIMES GI
zTIMES GIR2 GUNU
zTIMES GISH
zTIMES HA
zTIMES HI
zTIMES IGI GUNU
zTIMES KASKAL
zTIMES KUR
zTIMES KUSHU2
zTIMES KUSHU2 PLUS KASKAL
zTIMES LAK-020
zTIMES LAM
zTIMES LAM TIMES KUR
zTIMES LUH PLUS GISH
zTIMES MASH
zTIMES MES
zTIMES MI
zTIMES NI
zTIMES PI
zTIMES SHE
zTIMES SI GUNU
vE2 TIMES KUR
zIMES PAP
wRIN2 X
wSH2 CROSSING ESH2
wZEN SHESHIG TIMES ASH
z SHESHIG TIMES HI
z SHESHIG TIMES IGI GUNU
z SHESHIG TIMES LA
z SHESHIG TIMES LAL
z SHESHIG TIMES ME
z SHESHIG TIMES MES
z SHESHIG TIMES SU
z TIMES SU
vGA2 TIMES BAHAR2
zTIMES DIM GUNU
zTIMES DUG TIMES IGI GUNU
zTIMES DUG TIMES KASKAL
zTIMES EREN
zTIMES GA
zTIMES GAR PLUS DI
zTIMES GAR PLUS NE
zTIMES HA PLUS A
zTIMES KUSHU2 PLUS KASKAL
zTIMES LAM
zTIMES LAM TIMES KUR
zTIMES LUH
zTIMES MUSH
zTIMES NE
zTIMES NE PLUS E2
zTIMES NE PLUS GI
zTIMES SHIM
zTIMES ZIZ2
xBA ROTATED NINETY DEGREES
wESHTIN TIMES U
wISH TIMES GISH CROSSING GISH
wU2 TIMES IGI GUNU
xD PLUS GISH TIMES TAK4
vHA TENU GUNU
wI TIMES ASH OVER HI TIMES ASH
vKA TIMES BU
zIMES KA
zIMES U U U
zIMES UR
vLAGAB TIMES ZU OVER ZU
xK-003
z021
z025
z030
z050
z051
z062
z079 OVER LAK-079 GUNU
z080
z081 OVER LAK-081
z092
z130
z142
z210
z219
z220
z225
z228
z238
z265
z266
z343
z347
z348
z383
z384
z390
z441
z449
z449 TIMES GU
z449 TIMES IGI
z449 TIMES PAP PLUS LU3
z449 TIMES PAP PLUS PAP PLUS LU3
z449 TIMES U2 PLUS BA
z450
z457
z470
z483
z490
z492
z493
z495
z550
z608
z617
z617 TIMES ASH
z617 TIMES BAD
z617 TIMES DUN3 GUNU GUNU
z617 TIMES KU3
z617 TIMES LA
z617 TIMES TAR
z617 TIMES TE
z617 TIMES U2
z617 TIMES UD
z617 TIMES URUDA
z636
z648
z648 TIMES DUB
z648 TIMES GA
z648 TIMES IGI
z648 TIMES IGI GUNU
z648 TIMES NI
z648 TIMES PAP PLUS PAP PLUS LU3
z648 TIMES SHESH PLUS KI
z648 TIMES UD
z648 TIMES URUDA
z724
z749
wU2 GUNU TIMES ASH
zTIMES DISH
zTIMES HAL
zTIMES PAP
zTIMES PAP PLUS PAP PLUS LU3
zTIMES TAK4
vMI PLUS ZA7
wUSH OVER MUSH TIMES GA
z OVER MUSH TIMES KAK
vNINDA2 TIMES DIM GUNU
zA2 TIMES GISH
zA2 TIMES GUL
zA2 TIMES HI
zA2 TIMES KESH2
zA2 TIMES LAK-050
zA2 TIMES MASH
zA2 TIMES PAP PLUS PAP
zA2 TIMES U
zA2 TIMES U PLUS U
zA2 TIMES URUDA
vSAG GUNU TIMES HA
zTIMES EN
zTIMES SHE AT LEFT
zTIMES TAK4
wHA6 TENU
xE OVER SHE
zPLUS HUB2
zPLUS NAM2
zPLUS SAR
xU2 PLUS DUG TIMES NI
z PLUS E2 TIMES AN
wI TIMES TAK4
vTAK4 PLUS SAG
wUM TIMES GAN2 TENU
zTIMES THREE DISH
vUR2 INVERTED
zTIMES UD
xU TIMES DARA3
zTIMES LAK-668
zTIMES LU3
vZA7
wU OVER ZU PLUS SAR
x5 TIMES THREE DISH TENU
a4dhYPRO-MINOAN SIGN CM001
zM002
zM004
zM005
zM006
zM007
zM008
zM009
zM010
zM011
zM012
zM012B
zM013
zM015
zM017
zM019
zM021
zM023
zM024
zM025
zM026
zM027
zM028
zM029
zM030
zM033
zM034
zM035
zM036
zM037
zM038
zM039
zM040
zM041
zM044
zM046
zM047
zM049
zM050
zM051
zM052
zM053
zM054
zM055
zM056
zM058
zM059
zM060
zM061
zM062
zM063
zM064
zM066
zM067
zM068
zM069
zM070
zM071
zM072
zM073
zM074
zM075
zM075B
zM076
zM078
zM079
zM080
zM081
zM082
zM083
zM084
zM085
zM086
zM087
zM088
zM089
zM090
zM091
zM092
zM094
zM095
zM096
zM097
zM098
zM099
zM100
zM101
zM102
zM103
zM104
zM105
zM107
zM108
zM109
zM110
zM112
zM114
zM301
zM302
egEGYPTIAN HIEROGLYPH A001
z A002
z A003
z A004
z A005
z A005A
z A006
z A006A
z A006B
z A007
z A008
z A009
z A010
z A011
z A012
z A013
z A014
z A014A
z A015
z A016
z A017
z A017A
z A018
z A019
z A020
z A021
z A022
z A023
z A024
z A025
z A026
z A027
z A028
z A029
z A030
z A031
z A032
z A032A
z A033
z A034
z A035
z A036
z A037
z A038
z A039
z A040
z A040A
z A041
z A042
z A042A
z A043
z A043A
z A044
z A045
z A045A
z A046
z A047
z A048
z A049
z A050
z A051
z A052
z A053
z A054
z A055
z A056
z A057
z A058
z A059
z A060
z A061
z A062
z A063
z A064
z A065
z A066
z A067
z A068
z A069
z A070
z B001
z B002
z B003
z B004
z B005
z B005A
z B006
z B007
z B008
z B009
z C001
z C002
z C002A
z C002B
z C002C
z C003
z C004
z C005
z C006
z C007
z C008
z C009
z C010
z C010A
z C011
z C012
z C013
z C014
z C015
z C016
z C017
z C018
z C019
z C020
z C021
z C022
z C023
z C024
z D001
z D002
z D003
z D004
z D005
z D006
z D007
z D008
z D008A
z D009
z D010
z D011
z D012
z D013
z D014
z D015
z D016
z D017
z D018
z D019
z D020
z D021
z D022
z D023
z D024
z D025
z D026
z D027
z D027A
z D028
z D029
z D030
z D031
z D031A
z D032
z D033
z D034
z D034A
z D035
z D036
z D037
z D038
z D039
z D040
z D041
z D042
z D043
z D044
z D045
z D046
z D046A
z D047
z D048
z D048A
z D049
z D050
z D050A
z D050B
z D050C
z D050D
z D050E
z D050F
z D050G
z D050H
z D050I
z D051
z D052
z D052A
z D053
z D054
z D054A
z D055
z D056
z D057
z D058
z D059
z D060
z D061
z D062
z D063
z D064
z D065
z D066
z D067
z D067A
z D067B
z D067C
z D067D
z D067E
z D067F
z D067G
z D067H
z E001
z E002
z E003
z E004
z E005
z E006
z E007
z E008
z E008A
z E009
z E009A
z E010
z E011
z E012
z E013
z E014
z E015
z E016
z E016A
z E017
z E017A
z E018
z E019
z E020
z E020A
z E021
z E022
z E023
z E024
z E025
z E026
z E027
z E028
z E028A
z E029
z E030
z E031
z E032
z E033
z E034
z E034A
z E036
z E037
z E038
z F001
z F001A
z F002
z F003
z F004
z F005
z F006
z F007
z F008
z F009
z F010
z F011
z F012
z F013
z F013A
z F014
z F015
z F016
z F017
z F018
z F019
z F020
z F021
z F021A
z F022
z F023
z F024
z F025
z F026
z F027
z F028
z F029
z F030
z F031
z F031A
z F032
z F033
z F034
z F035
z F036
z F037
z F037A
z F038
z F038A
z F039
z F040
z F041
z F042
z F043
z F044
z F045
z F045A
z F046
z F046A
z F047
z F047A
z F048
z F049
z F050
z F051
z F051A
z F051B
z F051C
z F052
z F053
z G001
z G002
z G003
z G004
z G005
z G006
z G006A
z G007
z G007A
z G007B
z G008
z G009
z G010
z G011
z G011A
z G012
z G013
z G014
z G015
z G016
z G017
z G018
z G019
z G020
z G020A
z G021
z G022
z G023
z G024
z G025
z G026
z G026A
z G027
z G028
z G029
z G030
z G031
z G032
z G033
z G034
z G035
z G036
z G036A
z G037
z G037A
z G038
z G039
z G040
z G041
z G042
z G043
z G043A
z G044
z G045
z G045A
z G046
z G047
z G048
z G049
z G050
z G051
z G052
z G053
z G054
z H001
z H002
z H003
z H004
z H005
z H006
z H006A
z H007
z H008
z I001
z I002
z I003
z I004
z I005
z I005A
z I006
z I007
z I008
z I009
z I009A
z I010
z I010A
z I011
z I011A
z I012
z I013
z I014
z I015
z K001
z K002
z K003
z K004
z K005
z K006
z K007
z K008
z L001
z L002
z L002A
z L003
z L004
z L005
z L006
z L006A
z L007
z L008
z M001
z M001A
z M001B
z M002
z M003
z M003A
z M004
z M005
z M006
z M007
z M008
z M009
z M010
z M010A
z M011
z M012
z M012A
z M012B
z M012C
z M012D
z M012E
z M012F
z M012G
z M012H
z M013
z M014
z M015
z M015A
z M016
z M016A
z M017
z M017A
z M018
z M019
z M020
z M021
z M022
z M022A
z M023
z M024
z M024A
z M025
z M026
z M027
z M028
z M028A
z M029
z M030
z M031
z M031A
z M032
z M033
z M033A
z M033B
z M034
z M035
z M036
z M037
z M038
z M039
z M040
z M040A
z M041
z M042
z M043
z M044
z N001
z N002
z N003
z N004
z N005
z N006
z N007
z N008
z N009
z N010
z N011
z N012
z N013
z N014
z N015
z N016
z N017
z N018
z N018A
z N018B
z N019
z N020
z N021
z N022
z N023
z N024
z N025
z N025A
z N026
z N027
z N028
z N029
z N030
z N031
z N032
z N033
z N033A
z N034
z N034A
z N035
z N035A
z N036
z N037
z N037A
z N038
z N039
z N040
z N041
z N042
z NL001
z NL002
z NL003
z NL004
z NL005
z NL005A
z NL006
z NL007
z NL008
z NL009
z NL010
z NL011
z NL012
z NL013
z NL014
z NL015
z NL016
z NL017
z NL017A
z NL018
z NL019
z NL020
z NU001
z NU002
z NU003
z NU004
z NU005
z NU006
z NU007
z NU008
z NU009
z NU010
z NU010A
z NU011
z NU011A
z NU012
z NU013
z NU014
z NU015
z NU016
z NU017
z NU018
z NU018A
z NU019
z NU020
z NU021
z NU022
z NU022A
z O001
z O001A
z O002
z O003
z O004
z O005
z O005A
z O006
z O006A
z O006B
z O006C
z O006D
z O006E
z O006F
z O007
z O008
z O009
z O010
z O010A
z O010B
z O010C
z O011
z O012
z O013
z O014
z O015
z O016
z O017
z O018
z O019
z O019A
z O020
z O020A
z O021
z O022
z O023
z O024
z O024A
z O025
z O025A
z O026
z O027
z O028
z O029
z O029A
z O030
z O030A
z O031
z O032
z O033
z O033A
z O034
z O035
z O036
z O036A
z O036B
z O036C
z O036D
z O037
z O038
z O039
z O040
z O041
z O042
z O043
z O044
z O045
z O046
z O047
z O048
z O049
z O050
z O050A
z O050B
z O051
z P001
z P001A
z P002
z P003
z P003A
z P004
z P005
z P006
z P007
z P008
z P009
z P010
z P011
z Q001
z Q002
z Q003
z Q004
z Q005
z Q006
z Q007
z R001
z R002
z R002A
z R003
z R003A
z R003B
z R004
z R005
z R006
z R007
z R008
z R009
z R010
z R010A
z R011
z R012
z R013
z R014
z R015
z R016
z R016A
z R017
z R018
z R019
z R020
z R021
z R022
z R023
z R024
z R025
z R026
z R027
z R028
z R029
z S001
z S002
z S002A
z S003
z S004
z S005
z S006
z S006A
z S007
z S008
z S009
z S010
z S011
z S012
z S013
z S014
z S014A
z S014B
z S015
z S016
z S017
z S017A
z S018
z S019
z S020
z S021
z S022
z S023
z S024
z S025
z S026
z S026A
z S026B
z S027
z S028
z S029
z S030
z S031
z S032
z S033
z S034
z S035
z S035A
z S036
z S037
z S038
z S039
z S040
z S041
z S042
z S043
z S044
z S045
z S046
z T001
z T002
z T003
z T003A
z T004
z T005
z T006
z T007
z T007A
z T008
z T008A
z T009
z T009A
z T010
z T011
z T011A
z T012
z T013
z T014
z T015
z T016
z T016A
z T017
z T018
z T019
z T020
z T021
z T022
z T023
z T024
z T025
z T026
z T027
z T028
z T029
z T030
z T031
z T032
z T032A
z T033
z T033A
z T034
z T035
z T036
z U001
z U002
z U003
z U004
z U005
z U006
z U006A
z U006B
z U007
z U008
z U009
z U010
z U011
z U012
z U013
z U014
z U015
z U016
z U017
z U018
z U019
z U020
z U021
z U022
z U023
z U023A
z U024
z U025
z U026
z U027
z U028
z U029
z U029A
z U030
z U031
z U032
z U032A
z U033
z U034
z U035
z U036
z U037
z U038
z U039
z U040
z U041
z U042
z V001
z V001A
z V001B
z V001C
z V001D
z V001E
z V001F
z V001G
z V001H
z V001I
z V002
z V002A
z V003
z V004
z V005
z V006
z V007
z V007A
z V007B
z V008
z V009
z V010
z V011
z V011A
z V011B
z V011C
z V012
z V012A
z V012B
z V013
z V014
z V015
z V016
z V017
z V018
z V019
z V020
z V020A
z V020B
z V020C
z V020D
z V020E
z V020F
z V020G
z V020H
z V020I
z V020J
z V020K
z V020L
z V021
z V022
z V023
z V023A
z V024
z V025
z V026
z V027
z V028
z V028A
z V029
z V029A
z V030
z V030A
z V031
z V031A
z V032
z V033
z V033A
z V034
z V035
z V036
z V037
z V037A
z V038
z V039
z V040
z V040A
z W001
z W002
z W003
z W003A
z W004
z W005
z W006
z W007
z W008
z W009
z W009A
z W010
z W010A
z W011
z W012
z W013
z W014
z W014A
z W015
z W016
z W017
z W017A
z W018
z W018A
z W019
z W020
z W021
z W022
z W023
z W024
z W024A
z W025
z X001
z X002
z X003
z X004
z X004A
z X004B
z X005
z X006
z X006A
z X007
z X008
z X008A
z Y001
z Y001A
z Y002
z Y003
z Y004
z Y005
z Y006
z Y007
z Y008
z Z001
z Z002
z Z002A
z Z002B
z Z002C
z Z002D
z Z003
z Z003A
z Z003B
z Z004
z Z004A
z Z005
z Z005A
z Z006
z Z007
z Z008
z Z009
z Z010
z Z011
z Z012
z Z013
z Z014
z Z015
z Z015A
z Z015B
z Z015C
z Z015D
z Z015E
z Z015F
z Z015G
z Z015H
z Z015I
z Z016
z Z016A
z Z016B
z Z016C
z Z016D
z Z016E
z Z016F
z Z016G
z Z016H
z AA001
z AA002
z AA003
z AA004
z AA005
z AA006
z AA007
z AA007A
z AA007B
z AA008
z AA009
z AA010
z AA011
z AA012
z AA013
z AA014
z AA015
z AA016
z AA017
z AA018
z AA019
z AA020
z AA021
z AA022
z AA023
z AA024
z AA025
z AA026
z AA027
z AA028
z AA029
z AA030
z AA031
z AA032
z V011D
z VERTICAL JOINER
z HORIZONTAL JOINER
z INSERT AT TOP START
z INSERT AT BOTTOM START
z INSERT AT TOP END
z INSERT AT BOTTOM END
z OVERLAY MIDDLE
z BEGIN SEGMENT
z END SEGMENT
z INSERT AT MIDDLE
z INSERT AT TOP
z INSERT AT BOTTOM
z BEGIN ENCLOSURE
z END ENCLOSURE
z BEGIN WALLED ENCLOSURE
z END WALLED ENCLOSURE
z MIRROR HORIZONTALLY
z FULL BLANK
z HALF BLANK
z LOST SIGN
z HALF LOST SIGN
z TALL LOST SIGN
z WIDE LOST SIGN
z MODIFIER DAMAGED AT TOP START
z MODIFIER DAMAGED AT BOTTOM START
z MODIFIER DAMAGED AT START
z MODIFIER DAMAGED AT TOP END
z MODIFIER DAMAGED AT TOP
z MODIFIER DAMAGED AT BOTTOM START AND TOP END
z MODIFIER DAMAGED AT START AND TOP
z MODIFIER DAMAGED AT BOTTOM END
z MODIFIER DAMAGED AT TOP START AND BOTTOM END
z MODIFIER DAMAGED AT BOTTOM
z MODIFIER DAMAGED AT START AND BOTTOM
z MODIFIER DAMAGED AT END
z MODIFIER DAMAGED AT TOP AND END
z MODIFIER DAMAGED AT BOTTOM AND END
z MODIFIER DAMAGED
fabgANATOLIAN HIEROGLYPH A001
zH A002
zH A003
zH A004
zH A005
zH A006
zH A007
zH A008
zH A009
zH A010
zH A010A
zH A011
zH A012
zH A013
zH A014
zH A015
zH A016
zH A017
zH A018
zH A019
zH A020
zH A021
zH A022
zH A023
zH A024
zH A025
zH A026
zH A026A
zH A027
zH A028
zH A029
zH A030
zH A031
zH A032
zH A033
zH A034
zH A035
zH A036
zH A037
zH A038
zH A039
zH A039A
zH A040
zH A041
zH A041A
zH A042
zH A043
zH A044
zH A045
zH A045A
zH A046
zH A046A
zH A046B
zH A047
zH A048
zH A049
zH A050
zH A051
zH A052
zH A053
zH A054
zH A055
zH A056
zH A057
zH A058
zH A059
zH A060
zH A061
zH A062
zH A063
zH A064
zH A065
zH A066
zH A066A
zH A066B
zH A066C
zH A067
zH A068
zH A069
zH A070
zH A071
zH A072
zH A073
zH A074
zH A075
zH A076
zH A077
zH A078
zH A079
zH A080
zH A081
zH A082
zH A083
zH A084
zH A085
zH A086
zH A087
zH A088
zH A089
zH A090
zH A091
zH A092
zH A093
zH A094
zH A095
zH A096
zH A097
zH A097A
zH A098
zH A098A
zH A099
zH A100
zH A100A
zH A101
zH A101A
zH A102
zH A102A
zH A103
zH A104
zH A104A
zH A104B
zH A104C
zH A105
zH A105A
zH A105B
zH A106
zH A107
zH A107A
zH A107B
zH A107C
zH A108
zH A109
zH A110
zH A110A
zH A110B
zH A111
zH A112
zH A113
zH A114
zH A115
zH A115A
zH A116
zH A117
zH A118
zH A119
zH A120
zH A121
zH A122
zH A123
zH A124
zH A125
zH A125A
zH A126
zH A127
zH A128
zH A129
zH A130
zH A131
zH A132
zH A133
zH A134
zH A135
zH A135A
zH A136
zH A137
zH A138
zH A139
zH A140
zH A141
zH A142
zH A143
zH A144
zH A145
zH A146
zH A147
zH A148
zH A149
zH A150
zH A151
zH A152
zH A153
zH A154
zH A155
zH A156
zH A157
zH A158
zH A159
zH A160
zH A161
zH A162
zH A163
zH A164
zH A165
zH A166
zH A167
zH A168
zH A169
zH A170
zH A171
zH A172
zH A173
zH A174
zH A175
zH A176
zH A177
zH A178
zH A179
zH A180
zH A181
zH A182
zH A183
zH A184
zH A185
zH A186
zH A187
zH A188
zH A189
zH A190
zH A191
zH A192
zH A193
zH A194
zH A195
zH A196
zH A197
zH A198
zH A199
zH A200
zH A201
zH A202
zH A202A
zH A202B
zH A203
zH A204
zH A205
zH A206
zH A207
zH A207A
zH A208
zH A209
zH A209A
zH A210
zH A211
zH A212
zH A213
zH A214
zH A215
zH A215A
zH A216
zH A216A
zH A217
zH A218
zH A219
zH A220
zH A221
zH A222
zH A223
zH A224
zH A225
zH A226
zH A227
zH A227A
zH A228
zH A229
zH A230
zH A231
zH A232
zH A233
zH A234
zH A235
zH A236
zH A237
zH A238
zH A239
zH A240
zH A241
zH A242
zH A243
zH A244
zH A245
zH A246
zH A247
zH A248
zH A249
zH A250
zH A251
zH A252
zH A253
zH A254
zH A255
zH A256
zH A257
zH A258
zH A259
zH A260
zH A261
zH A262
zH A263
zH A264
zH A265
zH A266
zH A267
zH A267A
zH A268
zH A269
zH A270
zH A271
zH A272
zH A273
zH A274
zH A275
zH A276
zH A277
zH A278
zH A279
zH A280
zH A281
zH A282
zH A283
zH A284
zH A285
zH A286
zH A287
zH A288
zH A289
zH A289A
zH A290
zH A291
zH A292
zH A293
zH A294
zH A294A
zH A295
zH A296
zH A297
zH A298
zH A299
zH A299A
zH A300
zH A301
zH A302
zH A303
zH A304
zH A305
zH A306
zH A307
zH A308
zH A309
zH A309A
zH A310
zH A311
zH A312
zH A313
zH A314
zH A315
zH A316
zH A317
zH A318
zH A319
zH A320
zH A321
zH A322
zH A323
zH A324
zH A325
zH A326
zH A327
zH A328
zH A329
zH A329A
zH A330
zH A331
zH A332A
zH A332B
zH A332C
zH A333
zH A334
zH A335
zH A336
zH A336A
zH A336B
zH A336C
zH A337
zH A338
zH A339
zH A340
zH A341
zH A342
zH A343
zH A344
zH A345
zH A346
zH A347
zH A348
zH A349
zH A350
zH A351
zH A352
zH A353
zH A354
zH A355
zH A356
zH A357
zH A358
zH A359
zH A359A
zH A360
zH A361
zH A362
zH A363
zH A364
zH A364A
zH A365
zH A366
zH A367
zH A368
zH A368A
zH A369
zH A370
zH A371
zH A371A
zH A372
zH A373
zH A374
zH A375
zH A376
zH A377
zH A378
zH A379
zH A380
zH A381
zH A381A
zH A382
zH A383 RA OR RI
zH A383A
zH A384
zH A385
zH A386
zH A386A
zH A387
zH A388
zH A389
zH A390
zH A391
zH A392
zH A393 EIGHT
zH A394
zH A395
zH A396
zH A397
zH A398
zH A399
zH A400
zH A401
zH A402
zH A403
zH A404
zH A405
zH A406
zH A407
zH A408
zH A409
zH A410 BEGIN LOGOGRAM MARK
zH A410A END LOGOGRAM MARK
zH A411
zH A412
zH A413
zH A414
zH A415
zH A416
zH A417
zH A418
zH A419
zH A420
zH A421
zH A422
zH A423
zH A424
zH A425
zH A426
zH A427
zH A428
zH A429
zH A430
zH A431
zH A432
zH A433
zH A434
zH A435
zH A436
zH A437
zH A438
zH A439
zH A440
zH A441
zH A442
zH A443
zH A444
zH A445
zH A446
zH A447
zH A448
zH A449
zH A450
zH A450A
zH A451
zH A452
zH A453
zH A454
zH A455
zH A456
zH A457
zH A457A
zH A458
zH A459
zH A460
zH A461
zH A462
zH A463
zH A464
zH A465
zH A466
zH A467
zH A468
zH A469
zH A470
zH A471
zH A472
zH A473
zH A474
zH A475
zH A476
zH A477
zH A478
zH A479
zH A480
zH A481
zH A482
zH A483
zH A484
zH A485
zH A486
zH A487
zH A488
zH A489
zH A490
zH A491
zH A492
zH A493
zH A494
zH A495
zH A496
zH A497
zH A501
zH A502
zH A503
zH A504
zH A505
zH A506
zH A507
zH A508
zH A509
zH A510
zH A511
zH A512
zH A513
zH A514
zH A515
zH A516
zH A517
zH A518
zH A519
zH A520
zH A521
zH A522
zH A523
zH A524
zH A525
zH A526
zH A527
zH A528
zH A529
zH A530
21bagBAMUM LETTER PHASE-A NGKUE MFON
zA GBIEE FON
zA PON MFON PIPAEMGBIEE
zA PON MFON PIPAEMBA
zA NAA MFON
zA SHUENSHUET
zA TITA MFON
zA NZA MFON
zA SHINDA PA NJI
zA PON PA NJI PIPAEMGBIEE
zA PON PA NJI PIPAEMBA
zA MAEMBGBIEE
zA TU MAEMBA
zA NGANGU
zA MAEMVEUX
zA MANSUAE
zA MVEUAENGAM
zA SEUNYAM
zA NTOQPEN
zA KEUKEUTNDA
zA NKINDI
zA SUU
zA NGKUENZEUM
zA LAPAQ
zA LET KUT
zA NTAP MFAA
zA MAEKEUP
zA PASHAE
zA GHEUAERAE
zA PAMSHAE
zA MON NGGEUAET
zA NZUN MEUT
zA U YUQ NAE
zA GHEUAEGHEUAE
zA NTAP NTAA
zA SISA
zA MGBASA
zA MEUNJOMNDEUQ
zA MOOMPUQ
zA KAFA
zA PA LEERAEWA
zA NDA LEERAEWA
zA PET
zA MAEMKPEN
zA NIKA
zA PUP
zA TUAEP
zA LUAEP
zA SONJAM
zA TEUTEUWEN
zA MAENYI
zA KET
zA NDAANGGEUAET
zA KUOQ
zA MOOMEUT
zA SHUM
zA LOMMAE
zA FIRI
zA ROM
zA KPOQ
zA SOQ
zA MAP PIEET
zA SHIRAE
zA NTAP
zA SHOQ NSHUT YUM
zA NYIT MONGKEUAEQ
zA PAARAE
zA NKAARAE
zA UNKNOWN
zA NGGEN
zA MAESI
zA NJAM
zA MBANYI
zA NYET
zA TEUAEN
zA SOT
zA PAAM
zA NSHIEE
zA MAEM
zA NYI
zA KAQ
zA NSHA
zA VEE
zA LU
zA NEN
zA NAQ
zA MBAQ
zB NSHUET
zB TU MAEMGBIEE
zB SIEE
zB SET TU
zB LOM NTEUM
zB MBA MAELEE
zB KIEEM
zB YEURAE
zB MBAARAE
zB KAM
zB PEESHI
zB YAFU LEERAEWA
zB LAM NSHUT NYAM
zB NTIEE SHEUOQ
zB NDU NJAA
zB GHEUGHEUAEM
zB PIT
zB TU NSIEE
zB SHET NJAQ
zB SHEUAEQTU
zB MFON TEUAEQ
zB MBIT MBAAKET
zB NYI NTEUM
zB KEUPUQ
zB GHEUGHEN
zB KEUYEUX
zB LAANAE
zB PARUM
zB VEUM
zB NGKINDI MVOP
zB NGGEU MBU
zB WUAET
zB SAKEUAE
zB TAAM
zB MEUQ
zB NGGUOQ
zB NGGUOQ LARGE
zB MFIYAQ
zB SUE
zB MBEURI
zB MONTIEEN
zB NYAEMAE
zB PUNGAAM
zB MEUT NGGEET
zB FEUX
zB MBUOQ
zB FEE
zB KEUAEM
zB MA NJEUAENA
zB MA NJUQA
zB LET
zB NGGAAM
zB NSEN
zB MA
zB KIQ
zB NGOM
zC NGKUE MAEMBA
zC NZA
zC YUM
zC WANGKUOQ
zC NGGEN
zC NDEUAEREE
zC NGKAQ
zC GHARAE
zC MBEEKEET
zC GBAYI
zC NYIR MKPARAQ MEUN
zC NTU MBIT
zC MBEUM
zC PIRIEEN
zC NDOMBU
zC MBAA CABBAGE-TREE
zC KEUSHEUAEP
zC GHAP
zC KEUKAQ
zC YU MUOMAE
zC NZEUM
zC MBUE
zC NSEUAEN
zC MBIT
zC YEUQ
zC KPARAQ
zC KAA
zC SEUX
zC NDIDA
zC TAASHAE
zC NJUEQ
zC TITA YUE
zC SUAET
zC NGGUAEN NYAM
zC VEUX
zC NANSANAQ
zC MA KEUAERI
zC NTAA
zC NGGUON
zC LAP
zC MBIRIEEN
zC MGBASAQ
zC NTEUNGBA
zC TEUTEUX
zC NGGUM
zC FUE
zC NDEUT
zC NSA
zC NSHAQ
zC BUNG
zC VEUAEPEN
zC MBERAE
zC RU
zC NJAEM
zC LAM
zC TITUAEP
zC NSUOT NGOM
zC NJEEEE
zC KET
zC NGGU
zC MAESI
zC MBUAEM
zC LU
zC KUT
zC NJAM
zC NGOM
zC WUP
zC NGGUEET
zC NSOM
zC NTEN
zC KUOP NKAARAE
zC NSUN
zC NDAM
zC MA NSIEE
zC YAA
zC NDAP
zC SHUEQ
zC SETFON
zC MBI
zC MAEMBA
zC MBANYI
zC KEUSEUX
zC MBEUX
zC KEUM
zC MBAA PICKET
zC YUWOQ
zC NJEUX
zC MIEE
zC MUAE
zC SHIQ
zC KEN LAW
zC KEN FATIGUE
zC NGAQ
zC NAQ
zC LIQ
zC PIN
zC PEN
zC TET
zD MBUO
zD WAP
zD NJI
zD MFON
zD NJIEE
zD LIEE
zD NJEUT
zD NSHEE
zD NGGAAMAE
zD NYAM
zD WUAEN
zD NGKUN
zD SHEE
zD NGKAP
zD KEUAETMEUN
zD TEUT
zD SHEUAE
zD NJAP
zD SUE
zD KET
zD YAEMMAE
zD KUOM
zD SAP
zD MFEUT
zD NDEUX
zD MALEERI
zD MEUT
zD SEUAEQ
zD YEN
zD NJEUAEM
zD KEUOT MBUAE
zD NGKEURI
zD TU
zD GHAA
zD NGKYEE
zD FEUFEUAET
zD NDEE
zD MGBOFUM
zD LEUAEP
zD NDON
zD MONI
zD MGBEUN
zD PUUT
zD MGBIEE
zD MFO
zD LUM
zD NSIEEP
zD MBAA
zD KWAET
zD NYET
zD TEUAEN
zD SOT
zD YUWOQ
zD KEUM
zD RAEM
zD TEEEE
zD NGKEUAEQ
zD MFEUAE
zD NSIEET
zD KEUP
zD PIP
zD PEUTAE
zD NYUE
zD LET
zD NGGAAM
zD MFIEE
zD NGGWAEN
zD YUOM
zD PAP
zD YUOP
zD NDAM
zD NTEUM
zD SUAE
zD KUN
zD NGGEUX
zD NGKIEE
zD TUOT
zD MEUN
zD KUQ
zD NSUM
zD TEUN
zD MAENJET
zD NGGAP
zD LEUM
zD NGGUOM
zD NSHUT
zD NJUEQ
zD GHEUAE
zD KU
zD REN OLD
zD TAE
zD TOQ
zD NYI
zD RII
zD LEEEE
zD MEEEE
zD M
zD SUU
zD MU
zD SHII
zD SHEUX
zD KYEE
zD NU
zD SHU
zD NTEE
zD PEE
zD NI
zD SHOQ
zD PUQ
zD MVOP
zD LOQ
zD REN MUCH
zD TI
zD NTUU
zD MBAA SEVEN
zD SAQ
zD FAA
zE NDAP
zE TOON
zE MBEUM
zE LAP
zE VOM
zE LOON
zE PAA
zE SOM
zE RAQ
zE NSHUOP
zE NDUN
zE PUAE
zE TAM
zE NGKA
zE KPEUX
zE WUO
zE SEE
zE NGGEUAET
zE PAAM
zE TOO
zE KUOP
zE LOM
zE NSHIEE
zE NGOP
zE MAEM
zE NGKEUX
zE NGOQ
zE NSHUE
zE RIMGBA
zE NJEUX
zE PEEM
zE SAA
zE NGGURAE
zE MGBA
zE GHEUX
zE NGKEUAEM
zE NJAEMLI
zE MAP
zE LOOT
zE NGGEEEE
zE NDIQ
zE TAEN NTEUM
zE SET
zE PUM
zE NDAA SOFTNESS
zE NGGUAESHAE NYAM
zE YIEE
zE GHEUN
zE TUAE
zE YEUAE
zE PO
zE TUMAE
zE KEUAE
zE SUAEN
zE TEUAEQ
zE VEUAE
zE WEUX
zE LAAM
zE PU
zE TAAQ
zE GHAAMAE
zE NGEUREUT
zE SHEUAEQ
zE MGBEN
zE MBEE
zE NZAQ
zE NKOM
zE GBET
zE TUM
zE KUET
zE YAP
zE NYI CLEAVER
zE YIT
zE MFEUQ
zE NDIAQ
zE PIEEQ
zE YUEQ
zE LEUAEM
zE FUE
zE GBEUX
zE NGKUP
zE KET
zE MAE
zE NGKAAMI
zE GHET
zE FA
zE NTUM
zE PEUT
zE YEUM
zE NGGEUAE
zE NYI BETWEEN
zE NZUQ
zE POON
zE MIEE
zE FUET
zE NAE
zE MUAE
zE GHEUAE
zE FU I
zE MVI
zE PUAQ
zE NGKUM
zE KUT
zE PIET
zE NTAP
zE YEUAET
zE NGGUP
zE PA PEOPLE
zE FU CALL
zE FOM
zE NJEE
zE A
zE TOQ
zE O
zE I
zE LAQ
zE PA PLURAL
zE TAA
zE TAQ
zE NDAA MY HOUSE
zE SHIQ
zE YEUX
zE NGUAE
zE YUAEN
zE YOQ SWIMMING
zE YOQ COVER
zE YUQ
zE YUN
zE KEUX
zE PEUX
zE NJEE EPOCH
zE PUE
zE WUE
zE FEE
zE VEE
zE LU
zE MI
zE REUX
zE RAE
zE NGUAET
zE NGA
zE SHO
zE SHOQ
zE FU REMEDY
zE NA
zE PI
zE LOQ
zE KO
zE MEN
zE MA
zE MAQ
zE TEU
zE KI
zE MON
zE TEN
zE FAQ
zE GHOM
zF KA
zF U
zF KU
zF EE
zF REE
zF TAE
zF NYI
zF LA
zF RII
zF RIEE
zF MEEEE
zF TAA
zF NDAA
zF NJAEM
zF M
zF SUU
zF SHII
zF SI
zF SEUX
zF KYEE
zF KET
zF NUAE
zF NU
zF NJUAE
zF YOQ
zF SHU
zF YA
zF NSHA
zF PEUX
zF NTEE
zF WUE
zF PEE
zF RU
zF NI
zF REUX
zF KEN
zF NGKWAEN
zF NGGA
zF SHO
zF PUAE
zF FOM
zF WA
zF LI
zF LOQ
zF KO
zF MBEN
zF REN
zF MA
zF MO
zF MBAA
zF TET
zF KPA
zF SAMBA
zF VUEQ
8gMRO LETTER TA
rNGI
rYO
rMIM
rBA
rDA
rA
rPHI
rKHAI
rHAO
rDAI
rCHU
rKEAAE
rOL
rMAEM
rNIN
rPA
rOO
s
rRO
rSHI
rTHEA
rEA
rWA
rE
rKO
rLAN
t
rHAI
rRI
rTEK
2kDIGIT ZERO
qONE
qTWO
rHREE
qFOUR
rIVE
qSIX
rEVEN
qEIGHT
qNINE
5lANDA
lOUBLE DANDA
gTANGSA LETTER OZ
vC
vQ
vX
uAZ
vC
vQ
vX
uVZ
vC
vQ
vX
uEZ
vC
vQ
vX
uIZ
vC
vQ
vX
uUZ
vC
vQ
vX
uAWZ
wC
wQ
wX
uUIZ
wC
wQ
wX
uFINAL NG
uLONG UEX
uSHORT UEZ
z AWX
uUEC
wZ
wQ
wX
vIUZ
xC
xQ
xX
uMZ
vC
vQ
vX
uKA
vHA
uGA
uNGA
uSA
uYA
uWA
uPA
uNYA
uPHA
uBA
uMA
uNA
uHA
uLA
uHTA
uTA
uDA
uRA
uNHA
uSHA
uCA
uTSA
uGHA
uHTTA
uTHA
uXA
uFA
uDHA
uCHA
uZA
2nDIGIT ZERO
tONE
tTWO
uHREE
tFOUR
uIVE
tSIX
uEVEN
tEIGHT
tNINE
7gBASSA VAH LETTER ENNI
xKA
xSE
xFA
xMBE
xYIE
xGAH
xDHII
xKPAH
xJO
xHWAH
xWA
xZO
xGBU
xDO
xCE
xUWU
xTO
xBA
xVU
xYEIN
xPA
xWADDA
xA
xO
yO
xU
xEE
y
xI
3qCOMBINING HIGH TONE
z LOW TONE
z MID TONE
z LOW-MID TONE
z HIGH-LOW TONE
qFULL STOP
bgPAHAWH HMONG VOWEL KEEB
zKEEV
zKIB
zKIV
zKAUB
zKAUV
zKUB
zKUV
zKEB
zKEV
zKAIB
zKAIV
zKOOB
zKOOV
zKAWB
zKAWV
zKUAB
zKUAV
zKOB
zKOV
zKIAB
zKIAV
zKAB
zKAV
zKWB
zKWV
zKAAB
zKAAV
tCONSONANT VAU
zANT NTSAU
zANT LAU
zANT HAU
zANT NLAU
zANT RAU
zANT NKAU
zANT QHAU
zANT YAU
zANT HLAU
zANT MAU
zANT CHAU
zANT NCHAU
zANT HNAU
zANT PLHAU
zANT NTHAU
zANT NAU
zANT AU
zANT XAU
zANT CAU
tMARK CIM TUB
zIM SO
zIM KES
zIM KHAV
zIM SUAM
zIM HOM
zIM TAUM
tSIGN VOS THOM
zOS TSHAB CEEB
yCIM CHEEM
yVOS THIAB
zOS FEEM
yXYEEM NTXIV
zYEEM RHO
zYEEM TOV
zYEEM FAIB
yVOS SEEV
yMEEJ SUAB
yVOS NRUA
yIB YAM
yXAUS
yCIM TSOV ROG
btDIGIT ZERO
zONE
zTWO
zTHREE
zFOUR
zFIVE
zSIX
zSEVEN
zEIGHT
zNINE
2tNUMBER TENS
z HUNDREDS
z TEN THOUSANDS
z MILLIONS
z HUNDRED MILLIONS
z TEN BILLIONS
z TRILLIONS
2tSIGN VOS LUB
yXYOO
yHLI
yTHIRD-STAGE HLI
yZWJ THAJ
yHNUB
yNQIG
yXIAB
yNTUJ
yAV
yTXHEEJ CEEV
yMEEJ TSEEB
yTAU
yLOS
yMUS
yCIM HAIS LUS NTOG NTOG
zIM CUAM TSHOOJ
zIM TXWV
zIM TXWV CHWV
zIM PUB DAWB
zIM NRES TOS
6tCLAN SIGN TSHEEJ
zIGN YEEG
zIGN LIS
zIGN LAUJ
zIGN XYOOJ
zIGN KOO
zIGN HAWJ
zIGN MUAS
zIGN THOJ
zIGN TSAB
zIGN PHAB
zIGN KHAB
zIGN HAM
zIGN VAJ
zIGN FAJ
zIGN YAJ
zIGN TSWB
zIGN KWM
zIGN VWJ
2b1gMEDEFAIDRIN CAPITAL LETTER M
z LETTER S
z LETTER V
z LETTER W
z LETTER ATIU
z LETTER Z
z LETTER KP
z LETTER P
z LETTER T
z LETTER G
z LETTER F
z LETTER I
z LETTER K
z LETTER A
z LETTER J
z LETTER E
z LETTER B
z LETTER C
z LETTER U
z LETTER YU
z LETTER L
z LETTER Q
z LETTER H
0z LETTER HP
z LETTER NG
0z LETTER NY
z LETTER X
z LETTER D
z LETTER OE
z LETTER N
z LETTER R
z LETTER O
z LETTER AI
z LETTER Y
sSMALL LETTER M
zETTER S
zETTER V
zETTER W
zETTER ATIU
zETTER Z
zETTER KP
zETTER P
zETTER T
zETTER G
zETTER F
zETTER I
zETTER K
zETTER A
zETTER J
zETTER E
zETTER B
zETTER C
zETTER U
zETTER YU
zETTER L
zETTER Q
zETTER H
0zETTER HP
zETTER NG
0zETTER NY
zETTER X
zETTER D
zETTER OE
zETTER N
zETTER R
zETTER O
zETTER AI
zETTER Y
sDIGIT ZERO
yONE
yTWO
zHREE
yFOUR
zIVE
ySIX
zEVEN
yEIGHT
yNINE
sNUMBER TEN
zELEVEN
zTWELVE
zTHIRTEEN
zFOURTEEN
zFIFTEEN
zSIXTEEN
zSEVENTEEN
zEIGHTEEN
zNINETEEN
sDIGIT ONE ALTERNATE FORM
yTWO ALTERNATE FORM
zHREE ALTERNATE FORM
sCOMMA
sFULL STOP
sSYMBOL AIVA
sEXCLAMATION OH
66hIAO LETTER PA
sBA
sYI PA
sPLA
sMA
tHA
sARCHAIC MA
sFA
sVA
tFA
sTA
sDA
sYI TTA
wA
sTTA
sDDA
sNA
tHA
sYI NNA
sARCHAIC NA
sNNA
uHA
sLA
tYA
tHA
uYA
sTLHA
sDLHA
sTLHYA
sDLHYA
sKA
sGA
sYI KA
sQA
tGA
sNGA
uHA
sARCHAIC NGA
sHA
sXA
sGHA
uHA
sTSSA
sDZZA
sNYA
uHA
sTSHA
sDZHA
sYI TSHA
vDZHA
sREFORMED TSHA
sSHA
tSA
sZHA
tSHA
sTSA
sDZA
sYI TSA
sSA
sZA
tSA
tZA
uSA
sARCHAIC ZZA
sZZYA
uSYA
sWA
sAH
sHHA
sBRI
sSYI
sDZYI
sTE
tSE
sRTE
5lSIGN CONSONANT MODIFIER BAR
lLETTER NASALIZATION
lSIGN ASPIRATION
qREFORMED VOICING
zASPIRATION
lVOWEL SIGN A
xA
xHH
xN
yG
wO
xO
wWO
x
wE
xN
yG
wOEY
wI
xA
yN
zG
xO
xE
xI
xU
xNG
wU
xA
yN
zG
xU
xEI
xNG
wY
xI
wAE
yE
wERR
wROUNDED ERR
wER
wROUNDED ER
wAI
wEI
wAU
wOU
wN
xG
wUOG
wYUI
wOG
xER
wVW
wIG
wEA
wIONG
wUI
8lTONE RIGHT
qTOP RIGHT
qABOVE
qBELOW
lLETTER TONE-2
x3
x4
x5
x6
x7
x8
sREFORMED TONE-1
zD TONE-2
zD TONE-4
zD TONE-5
zD TONE-6
zD TONE-8
41gTANGUT ITERATION MARK
gNUSHU ITERATION MARK
gOLD CHINESE HOOK MARK
sITERATION MARK
gKHITAN SMALL SCRIPT FILLER
cgVIETNAMESE ALTERNATE READING MARK CA
zE READING MARK NHAY
180fgTANGUT COMPONENT-001
z2
z3
z4
z5
z6
z7
z8
z9
y10
z1
z2
z3
z4
z5
z6
z7
z8
z9
y20
z1
z2
z3
z4
z5
z6
z7
z8
z9
y30
z1
z2
z3
z4
z5
z6
z7
z8
z9
y40
z1
z2
z3
z4
z5
z6
z7
z8
z9
y50
z1
z2
z3
z4
z5
z6
z7
z8
z9
y60
z1
z2
z3
z4
z5
z6
z7
z8
z9
y70
z1
z2
z3
z4
z5
z6
z7
z8
z9
y80
z1
z2
z3
z4
z5
z6
z7
z8
z9
y90
z1
z2
z3
z4
z5
z6
z7
z8
z9
x100
z1
z2
z3
z4
z5
z6
z7
z8
z9
y10
z1
z2
z3
z4
z5
z6
z7
z8
z9
y20
z1
z2
z3
z4
z5
z6
z7
z8
z9
y30
z1
z2
z3
z4
z5
z6
z7
z8
z9
y40
z1
z2
z3
z4
z5
z6
z7
z8
z9
y50
z1
z2
z3
z4
z5
z6
z7
z8
z9
y60
z1
z2
z3
z4
z5
z6
z7
z8
z9
y70
z1
z2
z3
z4
z5
z6
z7
z8
z9
y80
z1
z2
z3
z4
z5
z6
z7
z8
z9
y90
z1
z2
z3
z4
z5
z6
z7
z8
z9
x200
z1
z2
z3
z4
z5
z6
z7
z8
z9
y10
z1
z2
z3
z4
z5
z6
z7
z8
z9
y20
z1
z2
z3
z4
z5
z6
z7
z8
z9
y30
z1
z2
z3
z4
z5
z6
z7
z8
z9
y40
z1
z2
z3
z4
z5
z6
z7
z8
z9
y50
z1
z2
z3
z4
z5
z6
z7
z8
z9
y60
z1
z2
z3
z4
z5
z6
z7
z8
z9
y70
z1
z2
z3
z4
z5
z6
z7
z8
z9
y80
z1
z2
z3
z4
z5
z6
z7
z8
z9
y90
z1
z2
z3
z4
z5
z6
z7
z8
z9
x300
z1
z2
z3
z4
z5
z6
z7
z8
z9
y10
z1
z2
z3
z4
z5
z6
z7
z8
z9
y20
z1
z2
z3
z4
z5
z6
z7
z8
z9
y30
z1
z2
z3
z4
z5
z6
z7
z8
z9
y40
z1
z2
z3
z4
z5
z6
z7
z8
z9
y50
z1
z2
z3
z4
z5
z6
z7
z8
z9
y60
z1
z2
z3
z4
z5
z6
z7
z8
z9
y70
z1
z2
z3
z4
z5
z6
z7
z8
z9
y80
z1
z2
z3
z4
z5
z6
z7
z8
z9
y90
z1
z2
z3
z4
z5
z6
z7
z8
z9
x400
z1
z2
z3
z4
z5
z6
z7
z8
z9
y10
z1
z2
z3
z4
z5
z6
z7
z8
z9
y20
z1
z2
z3
z4
z5
z6
z7
z8
z9
y30
z1
z2
z3
z4
z5
z6
z7
z8
z9
y40
z1
z2
z3
z4
z5
z6
z7
z8
z9
y50
z1
z2
z3
z4
z5
z6
z7
z8
z9
y60
z1
z2
z3
z4
z5
z6
z7
z8
z9
y70
z1
z2
z3
z4
z5
z6
z7
z8
z9
y80
z1
z2
z3
z4
z5
z6
z7
z8
z9
y90
z1
z2
z3
z4
z5
z6
z7
z8
z9
x500
z1
z2
z3
z4
z5
z6
z7
z8
z9
y10
z1
z2
z3
z4
z5
z6
z7
z8
z9
y20
z1
z2
z3
z4
z5
z6
z7
z8
z9
y30
z1
z2
z3
z4
z5
z6
z7
z8
z9
y40
z1
z2
z3
z4
z5
z6
z7
z8
z9
y50
z1
z2
z3
z4
z5
z6
z7
z8
z9
y60
z1
z2
z3
z4
z5
z6
z7
z8
z9
y70
z1
z2
z3
z4
z5
z6
z7
z8
z9
y80
z1
z2
z3
z4
z5
z6
z7
z8
z9
y90
z1
z2
z3
z4
z5
z6
z7
z8
z9
x600
z1
z2
z3
z4
z5
z6
z7
z8
z9
y10
z1
z2
z3
z4
z5
z6
z7
z8
z9
y20
z1
z2
z3
z4
z5
z6
z7
z8
z9
y30
z1
z2
z3
z4
z5
z6
z7
z8
z9
y40
z1
z2
z3
z4
z5
z6
z7
z8
z9
y50
z1
z2
z3
z4
z5
z6
z7
z8
z9
y60
z1
z2
z3
z4
z5
z6
z7
z8
z9
y70
z1
z2
z3
z4
z5
z6
z7
z8
z9
y80
z1
z2
z3
z4
z5
z6
z7
z8
z9
y90
z1
z2
z3
z4
z5
z6
z7
z8
z9
x700
z1
z2
z3
z4
z5
z6
z7
z8
z9
y10
z1
z2
z3
z4
z5
z6
z7
z8
z9
y20
z1
z2
z3
z4
z5
z6
z7
z8
z9
y30
z1
z2
z3
z4
z5
z6
z7
z8
z9
y40
z1
z2
z3
z4
z5
z6
z7
z8
z9
y50
z1
z2
z3
z4
z5
z6
z7
z8
z9
y60
z1
z2
z3
z4
z5
z6
z7
z8
gKHITAN SMALL SCRIPT CHARACTER-18B00
z CHARACTER-18B01
z CHARACTER-18B02
z CHARACTER-18B03
z CHARACTER-18B04
z CHARACTER-18B05
z CHARACTER-18B06
z CHARACTER-18B07
z CHARACTER-18B08
z CHARACTER-18B09
z CHARACTER-18B0A
z CHARACTER-18B0B
z CHARACTER-18B0C
z CHARACTER-18B0D
z CHARACTER-18B0E
z CHARACTER-18B0F
z CHARACTER-18B10
z CHARACTER-18B11
z CHARACTER-18B12
z CHARACTER-18B13
z CHARACTER-18B14
z CHARACTER-18B15
z CHARACTER-18B16
z CHARACTER-18B17
z CHARACTER-18B18
z CHARACTER-18B19
z CHARACTER-18B1A
z CHARACTER-18B1B
z CHARACTER-18B1C
z CHARACTER-18B1D
z CHARACTER-18B1E
z CHARACTER-18B1F
z CHARACTER-18B20
z CHARACTER-18B21
z CHARACTER-18B22
z CHARACTER-18B23
z CHARACTER-18B24
z CHARACTER-18B25
z CHARACTER-18B26
z CHARACTER-18B27
z CHARACTER-18B28
z CHARACTER-18B29
z CHARACTER-18B2A
z CHARACTER-18B2B
z CHARACTER-18B2C
z CHARACTER-18B2D
z CHARACTER-18B2E
z CHARACTER-18B2F
z CHARACTER-18B30
z CHARACTER-18B31
z CHARACTER-18B32
z CHARACTER-18B33
z CHARACTER-18B34
z CHARACTER-18B35
z CHARACTER-18B36
z CHARACTER-18B37
z CHARACTER-18B38
z CHARACTER-18B39
z CHARACTER-18B3A
z CHARACTER-18B3B
z CHARACTER-18B3C
z CHARACTER-18B3D
z CHARACTER-18B3E
z CHARACTER-18B3F
z CHARACTER-18B40
z CHARACTER-18B41
z CHARACTER-18B42
z CHARACTER-18B43
z CHARACTER-18B44
z CHARACTER-18B45
z CHARACTER-18B46
z CHARACTER-18B47
z CHARACTER-18B48
z CHARACTER-18B49
z CHARACTER-18B4A
z CHARACTER-18B4B
z CHARACTER-18B4C
z CHARACTER-18B4D
z CHARACTER-18B4E
z CHARACTER-18B4F
z CHARACTER-18B50
z CHARACTER-18B51
z CHARACTER-18B52
z CHARACTER-18B53
z CHARACTER-18B54
z CHARACTER-18B55
z CHARACTER-18B56
z CHARACTER-18B57
z CHARACTER-18B58
z CHARACTER-18B59
z CHARACTER-18B5A
z CHARACTER-18B5B
z CHARACTER-18B5C
z CHARACTER-18B5D
z CHARACTER-18B5E
z CHARACTER-18B5F
z CHARACTER-18B60
z CHARACTER-18B61
z CHARACTER-18B62
z CHARACTER-18B63
z CHARACTER-18B64
z CHARACTER-18B65
z CHARACTER-18B66
z CHARACTER-18B67
z CHARACTER-18B68
z CHARACTER-18B69
z CHARACTER-18B6A
z CHARACTER-18B6B
z CHARACTER-18B6C
z CHARACTER-18B6D
z CHARACTER-18B6E
z CHARACTER-18B6F
z CHARACTER-18B70
z CHARACTER-18B71
z CHARACTER-18B72
z CHARACTER-18B73
z CHARACTER-18B74
z CHARACTER-18B75
z CHARACTER-18B76
z CHARACTER-18B77
z CHARACTER-18B78
z CHARACTER-18B79
z CHARACTER-18B7A
z CHARACTER-18B7B
z CHARACTER-18B7C
z CHARACTER-18B7D
z CHARACTER-18B7E
z CHARACTER-18B7F
z CHARACTER-18B80
z CHARACTER-18B81
z CHARACTER-18B82
z CHARACTER-18B83
z CHARACTER-18B84
z CHARACTER-18B85
z CHARACTER-18B86
z CHARACTER-18B87
z CHARACTER-18B88
z CHARACTER-18B89
z CHARACTER-18B8A
z CHARACTER-18B8B
z CHARACTER-18B8C
z CHARACTER-18B8D
z CHARACTER-18B8E
z CHARACTER-18B8F
z CHARACTER-18B90
z CHARACTER-18B91
z CHARACTER-18B92
z CHARACTER-18B93
z CHARACTER-18B94
z CHARACTER-18B95
z CHARACTER-18B96
z CHARACTER-18B97
z CHARACTER-18B98
z CHARACTER-18B99
z CHARACTER-18B9A
z CHARACTER-18B9B
z CHARACTER-18B9C
z CHARACTER-18B9D
z CHARACTER-18B9E
z CHARACTER-18B9F
z CHARACTER-18BA0
z CHARACTER-18BA1
z CHARACTER-18BA2
z CHARACTER-18BA3
z CHARACTER-18BA4
z CHARACTER-18BA5
z CHARACTER-18BA6
z CHARACTER-18BA7
z CHARACTER-18BA8
z CHARACTER-18BA9
z CHARACTER-18BAA
z CHARACTER-18BAB
z CHARACTER-18BAC
z CHARACTER-18BAD
z CHARACTER-18BAE
z CHARACTER-18BAF
z CHARACTER-18BB0
z CHARACTER-18BB1
z CHARACTER-18BB2
z CHARACTER-18BB3
z CHARACTER-18BB4
z CHARACTER-18BB5
z CHARACTER-18BB6
z CHARACTER-18BB7
z CHARACTER-18BB8
z CHARACTER-18BB9
z CHARACTER-18BBA
z CHARACTER-18BBB
z CHARACTER-18BBC
z CHARACTER-18BBD
z CHARACTER-18BBE
z CHARACTER-18BBF
z CHARACTER-18BC0
z CHARACTER-18BC1
z CHARACTER-18BC2
z CHARACTER-18BC3
z CHARACTER-18BC4
z CHARACTER-18BC5
z CHARACTER-18BC6
z CHARACTER-18BC7
z CHARACTER-18BC8
z CHARACTER-18BC9
z CHARACTER-18BCA
z CHARACTER-18BCB
z CHARACTER-18BCC
z CHARACTER-18BCD
z CHARACTER-18BCE
z CHARACTER-18BCF
z CHARACTER-18BD0
z CHARACTER-18BD1
z CHARACTER-18BD2
z CHARACTER-18BD3
z CHARACTER-18BD4
z CHARACTER-18BD5
z CHARACTER-18BD6
z CHARACTER-18BD7
z CHARACTER-18BD8
z CHARACTER-18BD9
z CHARACTER-18BDA
z CHARACTER-18BDB
z CHARACTER-18BDC
z CHARACTER-18BDD
z CHARACTER-18BDE
z CHARACTER-18BDF
z CHARACTER-18BE0
z CHARACTER-18BE1
z CHARACTER-18BE2
z CHARACTER-18BE3
z CHARACTER-18BE4
z CHARACTER-18BE5
z CHARACTER-18BE6
z CHARACTER-18BE7
z CHARACTER-18BE8
z CHARACTER-18BE9
z CHARACTER-18BEA
z CHARACTER-18BEB
z CHARACTER-18BEC
z CHARACTER-18BED
z CHARACTER-18BEE
z CHARACTER-18BEF
z CHARACTER-18BF0
z CHARACTER-18BF1
z CHARACTER-18BF2
z CHARACTER-18BF3
z CHARACTER-18BF4
z CHARACTER-18BF5
z CHARACTER-18BF6
z CHARACTER-18BF7
z CHARACTER-18BF8
z CHARACTER-18BF9
z CHARACTER-18BFA
z CHARACTER-18BFB
z CHARACTER-18BFC
z CHARACTER-18BFD
z CHARACTER-18BFE
z CHARACTER-18BFF
z CHARACTER-18C00
z CHARACTER-18C01
z CHARACTER-18C02
z CHARACTER-18C03
z CHARACTER-18C04
z CHARACTER-18C05
z CHARACTER-18C06
z CHARACTER-18C07
z CHARACTER-18C08
z CHARACTER-18C09
z CHARACTER-18C0A
z CHARACTER-18C0B
z CHARACTER-18C0C
z CHARACTER-18C0D
z CHARACTER-18C0E
z CHARACTER-18C0F
z CHARACTER-18C10
z CHARACTER-18C11
z CHARACTER-18C12
z CHARACTER-18C13
z CHARACTER-18C14
z CHARACTER-18C15
z CHARACTER-18C16
z CHARACTER-18C17
z CHARACTER-18C18
z CHARACTER-18C19
z CHARACTER-18C1A
z CHARACTER-18C1B
z CHARACTER-18C1C
z CHARACTER-18C1D
z CHARACTER-18C1E
z CHARACTER-18C1F
z CHARACTER-18C20
z CHARACTER-18C21
z CHARACTER-18C22
z CHARACTER-18C23
z CHARACTER-18C24
z CHARACTER-18C25
z CHARACTER-18C26
z CHARACTER-18C27
z CHARACTER-18C28
z CHARACTER-18C29
z CHARACTER-18C2A
z CHARACTER-18C2B
z CHARACTER-18C2C
z CHARACTER-18C2D
z CHARACTER-18C2E
z CHARACTER-18C2F
z CHARACTER-18C30
z CHARACTER-18C31
z CHARACTER-18C32
z CHARACTER-18C33
z CHARACTER-18C34
z CHARACTER-18C35
z CHARACTER-18C36
z CHARACTER-18C37
z CHARACTER-18C38
z CHARACTER-18C39
z CHARACTER-18C3A
z CHARACTER-18C3B
z CHARACTER-18C3C
z CHARACTER-18C3D
z CHARACTER-18C3E
z CHARACTER-18C3F
z CHARACTER-18C40
z CHARACTER-18C41
z CHARACTER-18C42
z CHARACTER-18C43
z CHARACTER-18C44
z CHARACTER-18C45
z CHARACTER-18C46
z CHARACTER-18C47
z CHARACTER-18C48
z CHARACTER-18C49
z CHARACTER-18C4A
z CHARACTER-18C4B
z CHARACTER-18C4C
z CHARACTER-18C4D
z CHARACTER-18C4E
z CHARACTER-18C4F
z CHARACTER-18C50
z CHARACTER-18C51
z CHARACTER-18C52
z CHARACTER-18C53
z CHARACTER-18C54
z CHARACTER-18C55
z CHARACTER-18C56
z CHARACTER-18C57
z CHARACTER-18C58
z CHARACTER-18C59
z CHARACTER-18C5A
z CHARACTER-18C5B
z CHARACTER-18C5C
z CHARACTER-18C5D
z CHARACTER-18C5E
z CHARACTER-18C5F
z CHARACTER-18C60
z CHARACTER-18C61
z CHARACTER-18C62
z CHARACTER-18C63
z CHARACTER-18C64
z CHARACTER-18C65
z CHARACTER-18C66
z CHARACTER-18C67
z CHARACTER-18C68
z CHARACTER-18C69
z CHARACTER-18C6A
z CHARACTER-18C6B
z CHARACTER-18C6C
z CHARACTER-18C6D
z CHARACTER-18C6E
z CHARACTER-18C6F
z CHARACTER-18C70
z CHARACTER-18C71
z CHARACTER-18C72
z CHARACTER-18C73
z CHARACTER-18C74
z CHARACTER-18C75
z CHARACTER-18C76
z CHARACTER-18C77
z CHARACTER-18C78
z CHARACTER-18C79
z CHARACTER-18C7A
z CHARACTER-18C7B
z CHARACTER-18C7C
z CHARACTER-18C7D
z CHARACTER-18C7E
z CHARACTER-18C7F
z CHARACTER-18C80
z CHARACTER-18C81
z CHARACTER-18C82
z CHARACTER-18C83
z CHARACTER-18C84
z CHARACTER-18C85
z CHARACTER-18C86
z CHARACTER-18C87
z CHARACTER-18C88
z CHARACTER-18C89
z CHARACTER-18C8A
z CHARACTER-18C8B
z CHARACTER-18C8C
z CHARACTER-18C8D
z CHARACTER-18C8E
z CHARACTER-18C8F
z CHARACTER-18C90
z CHARACTER-18C91
z CHARACTER-18C92
z CHARACTER-18C93
z CHARACTER-18C94
z CHARACTER-18C95
z CHARACTER-18C96
z CHARACTER-18C97
z CHARACTER-18C98
z CHARACTER-18C99
z CHARACTER-18C9A
z CHARACTER-18C9B
z CHARACTER-18C9C
z CHARACTER-18C9D
z CHARACTER-18C9E
z CHARACTER-18C9F
z CHARACTER-18CA0
z CHARACTER-18CA1
z CHARACTER-18CA2
z CHARACTER-18CA3
z CHARACTER-18CA4
z CHARACTER-18CA5
z CHARACTER-18CA6
z CHARACTER-18CA7
z CHARACTER-18CA8
z CHARACTER-18CA9
z CHARACTER-18CAA
z CHARACTER-18CAB
z CHARACTER-18CAC
z CHARACTER-18CAD
z CHARACTER-18CAE
z CHARACTER-18CAF
z CHARACTER-18CB0
z CHARACTER-18CB1
z CHARACTER-18CB2
z CHARACTER-18CB3
z CHARACTER-18CB4
z CHARACTER-18CB5
z CHARACTER-18CB6
z CHARACTER-18CB7
z CHARACTER-18CB8
z CHARACTER-18CB9
z CHARACTER-18CBA
z CHARACTER-18CBB
z CHARACTER-18CBC
z CHARACTER-18CBD
z CHARACTER-18CBE
z CHARACTER-18CBF
z CHARACTER-18CC0
z CHARACTER-18CC1
z CHARACTER-18CC2
z CHARACTER-18CC3
z CHARACTER-18CC4
z CHARACTER-18CC5
z CHARACTER-18CC6
z CHARACTER-18CC7
z CHARACTER-18CC8
z CHARACTER-18CC9
z CHARACTER-18CCA
z CHARACTER-18CCB
z CHARACTER-18CCC
z CHARACTER-18CCD
z CHARACTER-18CCE
z CHARACTER-18CCF
z CHARACTER-18CD0
z CHARACTER-18CD1
z CHARACTER-18CD2
z CHARACTER-18CD3
z CHARACTER-18CD4
z CHARACTER-18CD5
231bhATAKANA LETTER MINNAN TONE-2
zNAN TONE-3
zNAN TONE-4
zNAN TONE-5
2zNAN TONE-7
zNAN TONE-8
zNAN NASALIZED TONE-1
zNAN NASALIZED TONE-2
zNAN NASALIZED TONE-3
zNAN NASALIZED TONE-4
zNAN NASALIZED TONE-5
2zNAN NASALIZED TONE-7
zNAN NASALIZED TONE-8
2wARCHAIC E
gHENTAIGANA LETTER E-1
0hIRAGANA LETTER ARCHAIC YE
hENTAIGANA LETTER A-1
z-2
z-3
z-WO
yI-1
z-2
z-3
z-4
yU-1
z-2
z-3
z-4
z-5
yE-2
z-3
z-4
z-5
z-6
yO-1
z-2
z-3
yKA-1
zA-2
zA-3
zA-4
zA-5
zA-6
zA-7
zA-8
zA-9
zA-10
zA-11
zA-KE
zI-1
zI-2
zI-3
zI-4
zI-5
zI-6
zI-7
zI-8
zU-1
zU-2
zU-3
zU-4
zU-5
zU-6
zU-7
zE-1
zE-2
zE-3
zE-4
zE-5
zE-6
zO-1
zO-2
zO-3
zO-KI
ySA-1
zA-2
zA-3
zA-4
zA-5
zA-6
zA-7
zA-8
zI-1
zI-2
zI-3
zI-4
zI-5
zI-6
zU-1
zU-2
zU-3
zU-4
zU-5
zU-6
zU-7
zU-8
zE-1
zE-2
zE-3
zE-4
zE-5
zO-1
zO-2
zO-3
zO-4
zO-5
zO-6
zO-7
yTA-1
zA-2
zA-3
zA-4
zI-1
zI-2
zI-3
zI-4
zI-5
zI-6
zI-7
zU-1
zU-2
zU-3
zU-4
zU-TO
zE-1
zE-2
zE-3
zE-4
zE-5
zE-6
zE-7
zE-8
zE-9
zO-1
zO-2
zO-3
zO-4
zO-5
zO-6
zO-RA
yNA-1
zA-2
zA-3
zA-4
zA-5
zA-6
zA-7
zA-8
zA-9
zI-1
zI-2
zI-3
zI-4
zI-5
zI-6
zI-7
zI-TE
zU-1
zU-2
zU-3
zE-1
zE-2
zE-3
zE-4
zE-5
zE-6
zE-KO
zO-1
zO-2
zO-3
zO-4
zO-5
yHA-1
zA-2
zA-3
zA-4
zA-5
zA-6
zA-7
zA-8
zA-9
zA-10
zA-11
zI-1
zI-2
zI-3
zI-4
zI-5
zI-6
zI-7
zU-1
zU-2
zU-3
zE-1
zE-2
zE-3
zE-4
zE-5
zE-6
zE-7
zO-1
zO-2
zO-3
zO-4
zO-5
zO-6
zO-7
zO-8
yMA-1
zA-2
zA-3
zA-4
zA-5
zA-6
zA-7
zI-1
zI-2
zI-3
zI-4
zI-5
zI-6
zI-7
zU-1
zU-2
zU-3
zU-4
zE-1
zE-2
zE-MA
zO-1
zO-2
zO-3
zO-4
zO-5
zO-6
yYA-1
zA-2
zA-3
zA-4
zA-5
zA-YO
zU-1
zU-2
zU-3
zU-4
zO-1
zO-2
zO-3
zO-4
zO-5
zO-6
yRA-1
zA-2
zA-3
zA-4
zI-1
zI-2
zI-3
zI-4
zI-5
zI-6
zI-7
zU-1
zU-2
zU-3
zU-4
zU-5
zU-6
zE-1
zE-2
zE-3
zE-4
zO-1
zO-2
zO-3
zO-4
zO-5
zO-6
yWA-1
zA-2
zA-3
zA-4
zA-5
zI-1
zI-2
zI-3
zI-4
zI-5
zE-1
zE-2
zE-3
zE-4
zO-1
zO-2
zO-3
zO-4
zO-5
zO-6
zO-7
yN-MU-MO-1
z-MU-MO-2
hIRAGANA LETTER ARCHAIC WU
gKATAKANA LETTER ARCHAIC YI
zHAIC YE
zHAIC WU
10gHIRAGANA LETTER SMALL KO
1ezLL WI
zLL WE
zLL WO
3gKATAKANA LETTER SMALL KO
fzLL WI
zLL WE
zLL WO
zLL N
9gNUSHU CHARACTER-1B170
z71
z72
z73
z74
z75
z76
z77
z78
z79
z7A
z7B
z7C
z7D
z7E
z7F
z80
z81
z82
z83
z84
z85
z86
z87
z88
z89
z8A
z8B
z8C
z8D
z8E
z8F
z90
z91
z92
z93
z94
z95
z96
z97
z98
z99
z9A
z9B
z9C
z9D
z9E
z9F
zA0
zA1
zA2
zA3
zA4
zA5
zA6
zA7
zA8
zA9
zAA
zAB
zAC
zAD
zAE
zAF
zB0
zB1
zB2
zB3
zB4
zB5
zB6
zB7
zB8
zB9
zBA
zBB
zBC
zBD
zBE
zBF
zC0
zC1
zC2
zC3
zC4
zC5
zC6
zC7
zC8
zC9
zCA
zCB
zCC
zCD
zCE
zCF
zD0
zD1
zD2
zD3
zD4
zD5
zD6
zD7
zD8
zD9
zDA
zDB
zDC
zDD
zDE
zDF
zE0
zE1
zE2
zE3
zE4
zE5
zE6
zE7
zE8
zE9
zEA
zEB
zEC
zED
zEE
zEF
zF0
zF1
zF2
zF3
zF4
zF5
zF6
zF7
zF8
zF9
zFA
zFB
zFC
zFD
zFE
zFF
y200
z01
z02
z03
z04
z05
z06
z07
z08
z09
z0A
z0B
z0C
z0D
z0E
z0F
z10
z11
z12
z13
z14
z15
z16
z17
z18
z19
z1A
z1B
z1C
z1D
z1E
z1F
z20
z21
z22
z23
z24
z25
z26
z27
z28
z29
z2A
z2B
z2C
z2D
z2E
z2F
z30
z31
z32
z33
z34
z35
z36
z37
z38
z39
z3A
z3B
z3C
z3D
z3E
z3F
z40
z41
z42
z43
z44
z45
z46
z47
z48
z49
z4A
z4B
z4C
z4D
z4E
z4F
z50
z51
z52
z53
z54
z55
z56
z57
z58
z59
z5A
z5B
z5C
z5D
z5E
z5F
z60
z61
z62
z63
z64
z65
z66
z67
z68
z69
z6A
z6B
z6C
z6D
z6E
z6F
z70
z71
z72
z73
z74
z75
z76
z77
z78
z79
z7A
z7B
z7C
z7D
z7E
z7F
z80
z81
z82
z83
z84
z85
z86
z87
z88
z89
z8A
z8B
z8C
z8D
z8E
z8F
z90
z91
z92
z93
z94
z95
z96
z97
z98
z99
z9A
z9B
z9C
z9D
z9E
z9F
zA0
zA1
zA2
zA3
zA4
zA5
zA6
zA7
zA8
zA9
zAA
zAB
zAC
zAD
zAE
zAF
zB0
zB1
zB2
zB3
zB4
zB5
zB6
zB7
zB8
zB9
zBA
zBB
zBC
zBD
zBE
zBF
zC0
zC1
zC2
zC3
zC4
zC5
zC6
zC7
zC8
zC9
zCA
zCB
zCC
zCD
zCE
zCF
zD0
zD1
zD2
zD3
zD4
zD5
zD6
zD7
zD8
zD9
zDA
zDB
zDC
zDD
zDE
zDF
zE0
zE1
zE2
zE3
zE4
zE5
zE6
zE7
zE8
zE9
zEA
zEB
zEC
zED
zEE
zEF
zF0
zF1
zF2
zF3
zF4
zF5
zF6
zF7
zF8
zF9
zFA
zFB
905gDUPLOYAN LETTER H
wX
wP
wT
wF
wK
wL
wB
wD
wV
wG
wR
wP N
wD S
wF N
wK M
wR S
wTH
wSLOAN DH
wDH
wKK
wSLOAN J
wHL
wLH
wRH
wM
wN
wJ
wS
wM N
wN M
wJ M
wS J
wM WITH DOT
wN WITH DOT
wJ WITH DOT
zITH DOTS INSIDE AND ABOVE
wS WITH DOT
zITH DOT BELOW
wM S
wN S
wJ S
wS S
wM N S
wN M S
wJ M S
wS J S
wJ S WITH DOT
yN
z S
wS T
z R
yP
z R
wT S
yR S
wW
xH
x R
wS N
yM
wK R S
wG R S
wS K
z R
wA
wSLOAN OW
wOA
x
wAOU
wI
wE
wIE
wSHORT I
wUI
wEE
wSLOAN EH
wROMANIAN I
wSLOAN EE
wLONG I
wYE
wU
wEU
wXW
wU N
wLONG U
wROMANIAN U
wUH
wSLOAN U
wOOH
xW
xU
wWA
xO
xI
xEI
xOW
wNASAL U
zAL O
zAL I
zAL A
wPERNIN AN
zNIN AM
wSLOAN EN
zAN AN
zAN ON
wVOCALIC M
6pAFFIX LEFT HORIZONTAL SECANT
vMID HORIZONTAL SECANT
vRIGHT HORIZONTAL SECANT
vLOW VERTICAL SECANT
vMID VERTICAL SECANT
vHIGH VERTICAL SECANT
vATTACHED SECANT
zCHED LEFT-TO-RIGHT SECANT
zCHED TANGENT
zCHED TAIL
zCHED E HOOK
zCHED I HOOK
zCHED TANGENT HOOK
4vHIGH ACUTE
z TIGHT ACUTE
z GRAVE
z LONG GRAVE
z DOT
z CIRCLE
z LINE
z WAVE
z VERTICAL
8vLOW ACUTE
zTIGHT ACUTE
zGRAVE
zLONG GRAVE
zDOT
zCIRCLE
zLINE
zWAVE
zVERTICAL
zARROW
3pSIGN O WITH CROSS
pTHICK LETTER SELECTOR
pDOUBLE MARK
pPUNCTUATION CHINOOK FULL STOP
gSHORTHAND FORMAT LETTER OVERLAP
xCONTINUING OVERLAP
xDOWN STEP
xUP STEP
125dgZNAMENNY COMBINING MARK GORAZDO NIZKO S KRYZHEM ON LEFT
zMARK NIZKO S KRYZHEM ON LEFT
zMARK TSATA ON LEFT
zMARK GORAZDO NIZKO ON LEFT
zMARK NIZKO ON LEFT
zMARK SREDNE ON LEFT
zMARK MALO POVYSHE ON LEFT
zMARK POVYSHE ON LEFT
zMARK VYSOKO ON LEFT
zMARK MALO POVYSHE S KHOKHLOM ON LEFT
zMARK POVYSHE S KHOKHLOM ON LEFT
zMARK VYSOKO S KHOKHLOM ON LEFT
zMARK GORAZDO NIZKO S KRYZHEM ON RIGHT
zMARK NIZKO S KRYZHEM ON RIGHT
zMARK TSATA ON RIGHT
zMARK GORAZDO NIZKO ON RIGHT
zMARK NIZKO ON RIGHT
zMARK SREDNE ON RIGHT
zMARK MALO POVYSHE ON RIGHT
zMARK POVYSHE ON RIGHT
zMARK VYSOKO ON RIGHT
zMARK MALO POVYSHE S KHOKHLOM ON RIGHT
zMARK POVYSHE S KHOKHLOM ON RIGHT
zMARK VYSOKO S KHOKHLOM ON RIGHT
zMARK TSATA S KRYZHEM
zMARK MALO POVYSHE S KRYZHEM
zMARK STRANNO MALO POVYSHE
zMARK POVYSHE S KRYZHEM
zMARK POVYSHE STRANNO
zMARK VYSOKO S KRYZHEM
zMARK MALO POVYSHE STRANNO
zMARK GORAZDO VYSOKO
zMARK ZELO
zMARK ON
zMARK RAVNO
zMARK TIKHAYA
zMARK BORZAYA
zMARK UDARKA
zMARK PODVERTKA
zMARK LOMKA
zMARK KUPNAYA
zMARK KACHKA
zMARK ZEVOK
zMARK SKOBA
zMARK RAZSEKA
zMARK KRYZH ON LEFT
3zTONAL RANGE MARK MRACHNO
zTONAL RANGE MARK SVETLO
zTONAL RANGE MARK TRESVETLO
zMARK ZADERZHKA
zMARK DEMESTVENNY ZADERZHKA
zMARK OTSECHKA
zMARK PODCHASHIE
zMARK PODCHASHIE WITH VERTICAL STROKE
zMARK CHASHKA
zMARK CHASHKA POLNAYA
zMARK OBLACHKO
zMARK SOROCHYA NOZHKA
zMARK TOCHKA
zMARK DVOETOCHIE
zATTACHING VERTICAL OMET
zMARK CURVED OMET
zMARK KRYZH
zLOWER TONAL RANGE INDICATOR
pPRIZNAK MODIFIER LEVEL-2
zDIFIER LEVEL-3
zDIFIER DIRECTION FLIP
zDIFIER KRYZH
zDIFIER ROG
apNEUME KRYUK
zK TIKHY
vPARAKLIT
vDVA V CHELNU
vKLYUCH
vZANOZHEK
vSTOPITSA
zITSA S OCHKOM
vPEREVODKA
zVODKA NEPOSTOYANNAYA
vSTOPITSA WITH SOROCHYA NOZHKA
vCHELYUSTKA
vPALKA
vZAPYATAYA
vGOLUBCHIK BORZY
zBCHIK TIKHY
zBCHIK MRACHNY
zBCHIK SVETLY
zBCHIK TRESVETLY
vVRAKHIYA PROSTAYA
zHIYA MRACHNAYA
zHIYA SVETLAYA
zHIYA TRESVETLAYA
zHIYA KLYUCHEVAYA PROSTAYA
zHIYA KLYUCHEVAYA MRACHNAYA
zHIYA KLYUCHEVAYA SVETLAYA
zHIYA KLYUCHEVAYA TRESVETLAYA
vDOUBLE ZAPYATAYA
vREVERSED CHELYUSTKA
vDERBITSA
vKHAMILO
vCHASHKA
vPODCHASHIE
vSKAMEYTSA MRACHNAYA
zEYTSA SVETLAYA
zEYTSA TRESVETLAYA
zEYTSA TIKHAYA
vDEMESTVENNY KLYUCH
vSKAMEYTSA KLYUCHEVAYA SVETLAYA
zEYTSA KLYUCHENEPOSTOYANNAYA
zEYTSA KLYUCHEVAYA TIKHAYA
zEYTSA DVOECHELNAYA PROSTAYA
zEYTSA DVOECHELNAYA SVETLAYA
zEYTSA DVOECHELNAYA NEPOSTOYANNAYA
zEYTSA DVOECHELNAYA KLYUCHEVAYA
wLOZHITIE
zHITIE S ZAPYATOY
zHITIE ZAKRYTOE
zHITIE S KRYZHEM
vKRYZH
vROG
vFITA
vKOBYLA
vZMEYTSA
vSTATYA
zYA S ZAPYATOY
zYA S KRYZHEM
zYA S ZAPYATOY I KRYZHEM
zYA S KRYZHEM I ZAPYATOY
zYA ZAKRYTAYA
zYA ZAKRYTAYA S ZAPYATOY
zYA S ROGOM
zYA S DVUMYA ZAPYATYMI
zYA S ZAPYATOY I PODCHASHIEM
vPOLKULIZMY
vSTATYA NEPOSTOYANNAYA
xRELA PROSTAYA
zLA MRACHNOTIKHAYA
zLA KRYZHEVAYA
zLA POLUPOVODNAYA
zLA POVODNAYA
zLA NEPOSTOYANNAYA
zLA KLYUCHEPOVODNAYA
zLA KLYUCHENEPOSTOYANNAYA
zLA TIKHAYA PUTNAYA
zLA DVOECHELNAYA
zLA DVOECHELNOKRYZHEVAYA
zLA DVOECHELNOPOVODNAYA
zLA DVOECHELNAYA KLYUCHEVAYA
zLA DVOECHELNOPOVODNAYA KLYUCHEVAYA
zLA GROMNAYA WITH SINGLE ZAPYATAYA
zLA GROMOPOVODNAYA WITH SINGLE ZAPYATAYA
zLA GROMNAYA
zLA GROMOPOVODNAYA
zLA GROMOPOVODNAYA WITH DOUBLE ZAPYATAYA
zLA GROMOKRYZHEVAYA
zLA GROMOKRYZHEVAYA POVODNAYA
vMECHIK
zIK POVODNY
zIK KLYUCHEVOY
zIK KLYUCHEPOVODNY
zIK KLYUCHENEPOSTOYANNY
vSTRELA TRYASOGLASNAYA
zLA TRYASOPOVODNAYA
zLA TRYASOSTRELNAYA
vOSOKA
zA SVETLAYA
zA TRESVETLAYA
zA KRYUKOVAYA SVETLAYA
zA KLYUCHEVAYA SVETLAYA
zA KLYUCHEVAYA NEPOSTOYANNAYA
vSTRELA KRYUKOVAYA
zLA KRYUKOVAYA POVODNAYA
zLA KRYUKOVAYA GROMNAYA WITH SINGLE ZAPYATAYA
zLA KRYUKOVAYA GROMOPOVODNAYA WITH SINGLE ZAPYATAYA
zLA KRYUKOVAYA GROMNAYA
zLA KRYUKOVAYA GROMOPOVODNAYA
zLA KRYUKOVAYA GROMOPOVODNAYA WITH DOUBLE ZAPYATAYA
zLA KRYUKOVAYA GROMOKRYZHEVAYA
zLA KRYUKOVAYA GROMOKRYZHEVAYA POVODNAYA
zLA KRYUKOVAYA TRYASKA
vKUFISMA
vOBLAKO
vDUDA
vNEMKA
vPAUK
3dgBYZANTINE MUSICAL SYMBOL PSILI
zYMBOL DASEIA
zYMBOL PERISPOMENI
zYMBOL OXEIA EKFONITIKON
zYMBOL OXEIA DIPLI
zYMBOL VAREIA EKFONITIKON
zYMBOL VAREIA DIPLI
zYMBOL KATHISTI
zYMBOL SYRMATIKI
zYMBOL PARAKLITIKI
zYMBOL YPOKRISIS
zYMBOL YPOKRISIS DIPLI
zYMBOL KREMASTI
zYMBOL APESO EKFONITIKON
zYMBOL EXO EKFONITIKON
zYMBOL TELEIA
zYMBOL KENTIMATA
zYMBOL APOSTROFOS
zYMBOL APOSTROFOS DIPLI
zYMBOL SYNEVMA
zYMBOL THITA
zYMBOL OLIGON ARCHAION
zYMBOL GORGON ARCHAION
zYMBOL PSILON
zYMBOL CHAMILON
zYMBOL VATHY
zYMBOL ISON ARCHAION
zYMBOL KENTIMA ARCHAION
zYMBOL KENTIMATA ARCHAION
zYMBOL SAXIMATA
zYMBOL PARICHON
zYMBOL STAVROS APODEXIA
zYMBOL OXEIAI ARCHAION
zYMBOL VAREIAI ARCHAION
zYMBOL APODERMA ARCHAION
zYMBOL APOTHEMA
zYMBOL KLASMA
zYMBOL REVMA
zYMBOL PIASMA ARCHAION
zYMBOL TINAGMA
zYMBOL ANATRICHISMA
zYMBOL SEISMA
zYMBOL SYNAGMA ARCHAION
zYMBOL SYNAGMA META STAVROU
zYMBOL OYRANISMA ARCHAION
zYMBOL THEMA
zYMBOL LEMOI
zYMBOL DYO
zYMBOL TRIA
zYMBOL TESSERA
zYMBOL KRATIMATA
zYMBOL APESO EXO NEO
zYMBOL FTHORA ARCHAION
zYMBOL IMIFTHORA
zYMBOL TROMIKON ARCHAION
zYMBOL KATAVA TROMIKON
zYMBOL PELASTON
zYMBOL PSIFISTON
zYMBOL KONTEVMA
zYMBOL CHOREVMA ARCHAION
zYMBOL RAPISMA
zYMBOL PARAKALESMA ARCHAION
zYMBOL PARAKLITIKI ARCHAION
zYMBOL ICHADIN
zYMBOL NANA
zYMBOL PETASMA
zYMBOL KONTEVMA ALLO
zYMBOL TROMIKON ALLO
zYMBOL STRAGGISMATA
zYMBOL GRONTHISMATA
zYMBOL ISON NEO
zYMBOL OLIGON NEO
zYMBOL OXEIA NEO
zYMBOL PETASTI
zYMBOL KOUFISMA
zYMBOL PETASTOKOUFISMA
zYMBOL KRATIMOKOUFISMA
zYMBOL PELASTON NEO
zYMBOL KENTIMATA NEO ANO
zYMBOL KENTIMA NEO ANO
zYMBOL YPSILI
zYMBOL APOSTROFOS NEO
zYMBOL APOSTROFOI SYNDESMOS NEO
zYMBOL YPORROI
zYMBOL KRATIMOYPORROON
zYMBOL ELAFRON
zYMBOL CHAMILI
zYMBOL MIKRON ISON
zYMBOL VAREIA NEO
zYMBOL PIASMA NEO
zYMBOL PSIFISTON NEO
zYMBOL OMALON
zYMBOL ANTIKENOMA
zYMBOL LYGISMA
zYMBOL PARAKLITIKI NEO
zYMBOL PARAKALESMA NEO
zYMBOL ETERON PARAKALESMA
zYMBOL KYLISMA
zYMBOL ANTIKENOKYLISMA
zYMBOL TROMIKON NEO
zYMBOL EKSTREPTON
zYMBOL SYNAGMA NEO
zYMBOL SYRMA
zYMBOL CHOREVMA NEO
zYMBOL EPEGERMA
zYMBOL SEISMA NEO
zYMBOL XIRON KLASMA
zYMBOL TROMIKOPSIFISTON
zYMBOL PSIFISTOLYGISMA
zYMBOL TROMIKOLYGISMA
zYMBOL TROMIKOPARAKALESMA
zYMBOL PSIFISTOPARAKALESMA
zYMBOL TROMIKOSYNAGMA
zYMBOL PSIFISTOSYNAGMA
zYMBOL GORGOSYNTHETON
zYMBOL ARGOSYNTHETON
zYMBOL ETERON ARGOSYNTHETON
zYMBOL OYRANISMA NEO
zYMBOL THEMATISMOS ESO
zYMBOL THEMATISMOS EXO
zYMBOL THEMA APLOUN
zYMBOL THES KAI APOTHES
zYMBOL KATAVASMA
zYMBOL ENDOFONON
zYMBOL YFEN KATO
zYMBOL YFEN ANO
zYMBOL STAVROS
zYMBOL KLASMA ANO
zYMBOL DIPLI ARCHAION
zYMBOL KRATIMA ARCHAION
zYMBOL KRATIMA ALLO
zYMBOL KRATIMA NEO
zYMBOL APODERMA NEO
zYMBOL APLI
zYMBOL DIPLI
zYMBOL TRIPLI
zYMBOL TETRAPLI
zYMBOL KORONIS
zYMBOL LEIMMA ENOS CHRONOU
zYMBOL LEIMMA DYO CHRONON
zYMBOL LEIMMA TRION CHRONON
zYMBOL LEIMMA TESSARON CHRONON
zYMBOL LEIMMA IMISEOS CHRONOU
zYMBOL GORGON NEO ANO
zYMBOL GORGON PARESTIGMENON ARISTERA
zYMBOL GORGON PARESTIGMENON DEXIA
zYMBOL DIGORGON
zYMBOL DIGORGON PARESTIGMENON ARISTERA KATO
zYMBOL DIGORGON PARESTIGMENON ARISTERA ANO
zYMBOL DIGORGON PARESTIGMENON DEXIA
zYMBOL TRIGORGON
zYMBOL ARGON
zYMBOL IMIDIARGON
zYMBOL DIARGON
zYMBOL AGOGI POLI ARGI
zYMBOL AGOGI ARGOTERI
zYMBOL AGOGI ARGI
zYMBOL AGOGI METRIA
zYMBOL AGOGI MESI
zYMBOL AGOGI GORGI
zYMBOL AGOGI GORGOTERI
zYMBOL AGOGI POLI GORGI
zYMBOL MARTYRIA PROTOS ICHOS
zYMBOL MARTYRIA ALLI PROTOS ICHOS
zYMBOL MARTYRIA DEYTEROS ICHOS
zYMBOL MARTYRIA ALLI DEYTEROS ICHOS
zYMBOL MARTYRIA TRITOS ICHOS
zYMBOL MARTYRIA TRIFONIAS
zYMBOL MARTYRIA TETARTOS ICHOS
zYMBOL MARTYRIA TETARTOS LEGETOS ICHOS
zYMBOL MARTYRIA LEGETOS ICHOS
zYMBOL MARTYRIA PLAGIOS ICHOS
zYMBOL ISAKIA TELOUS ICHIMATOS
zYMBOL APOSTROFOI TELOUS ICHIMATOS
zYMBOL FANEROSIS TETRAFONIAS
zYMBOL FANEROSIS MONOFONIAS
zYMBOL FANEROSIS DIFONIAS
zYMBOL MARTYRIA VARYS ICHOS
zYMBOL MARTYRIA PROTOVARYS ICHOS
zYMBOL MARTYRIA PLAGIOS TETARTOS ICHOS
zYMBOL GORTHMIKON N APLOUN
zYMBOL GORTHMIKON N DIPLOUN
zYMBOL ENARXIS KAI FTHORA VOU
zYMBOL IMIFONON
zYMBOL IMIFTHORON
zYMBOL FTHORA ARCHAION DEYTEROU ICHOU
zYMBOL FTHORA DIATONIKI PA
zYMBOL FTHORA DIATONIKI NANA
zYMBOL FTHORA NAOS ICHOS
zYMBOL FTHORA DIATONIKI DI
zYMBOL FTHORA SKLIRON DIATONON DI
zYMBOL FTHORA DIATONIKI KE
zYMBOL FTHORA DIATONIKI ZO
zYMBOL FTHORA DIATONIKI NI KATO
zYMBOL FTHORA DIATONIKI NI ANO
zYMBOL FTHORA MALAKON CHROMA DIFONIAS
zYMBOL FTHORA MALAKON CHROMA MONOFONIAS
zYMBOL FHTORA SKLIRON CHROMA VASIS
0zYMBOL FTHORA SKLIRON CHROMA VASIS
zYMBOL FTHORA SKLIRON CHROMA SYNAFI
zYMBOL FTHORA NENANO
zYMBOL CHROA ZYGOS
zYMBOL CHROA KLITON
zYMBOL CHROA SPATHI
zYMBOL FTHORA I YFESIS TETARTIMORION
zYMBOL FTHORA ENARMONIOS ANTIFONIA
zYMBOL YFESIS TRITIMORION
zYMBOL DIESIS TRITIMORION
zYMBOL DIESIS TETARTIMORION
zYMBOL DIESIS APLI DYO DODEKATA
zYMBOL DIESIS MONOGRAMMOS TESSERA DODEKATA
zYMBOL DIESIS DIGRAMMOS EX DODEKATA
zYMBOL DIESIS TRIGRAMMOS OKTO DODEKATA
zYMBOL YFESIS APLI DYO DODEKATA
zYMBOL YFESIS MONOGRAMMOS TESSERA DODEKATA
zYMBOL YFESIS DIGRAMMOS EX DODEKATA
zYMBOL YFESIS TRIGRAMMOS OKTO DODEKATA
zYMBOL GENIKI DIESIS
zYMBOL GENIKI YFESIS
zYMBOL DIASTOLI APLI MIKRI
zYMBOL DIASTOLI APLI MEGALI
zYMBOL DIASTOLI DIPLI
zYMBOL DIASTOLI THESEOS
zYMBOL SIMANSIS THESEOS
zYMBOL SIMANSIS THESEOS DISIMOU
zYMBOL SIMANSIS THESEOS TRISIMOU
zYMBOL SIMANSIS THESEOS TETRASIMOU
zYMBOL SIMANSIS ARSEOS
zYMBOL SIMANSIS ARSEOS DISIMOU
zYMBOL SIMANSIS ARSEOS TRISIMOU
zYMBOL SIMANSIS ARSEOS TETRASIMOU
zYMBOL DIGRAMMA GG
zYMBOL DIFTOGGOS OU
zYMBOL STIGMA
zYMBOL ARKTIKO PA
zYMBOL ARKTIKO VOU
zYMBOL ARKTIKO GA
zYMBOL ARKTIKO DI
zYMBOL ARKTIKO KE
zYMBOL ARKTIKO ZO
zYMBOL ARKTIKO NI
zYMBOL KENTIMATA NEO MESO
zYMBOL KENTIMA NEO MESO
zYMBOL KENTIMATA NEO KATO
zYMBOL KENTIMA NEO KATO
zYMBOL KLASMA KATO
zYMBOL GORGON NEO KATO
bgMUSICAL SYMBOL SINGLE BARLINE
vDOUBLE BARLINE
vFINAL BARLINE
vREVERSE FINAL BARLINE
vDASHED BARLINE
vSHORT BARLINE
vLEFT REPEAT SIGN
vRIGHT REPEAT SIGN
wEPEAT DOTS
vDAL SEGNO
x CAPO
vSEGNO
vCODA
vREPEATED FIGURE-1
zATED FIGURE-2
zATED FIGURE-3
vFERMATA
zATA BELOW
vBREATH MARK
vCAESURA
vBRACE
zKET
vONE-LINE STAFF
vTWO-LINE STAFF
wHREE-LINE STAFF
vFOUR-LINE STAFF
wIVE-LINE STAFF
vSIX-LINE STAFF
zSTRING FRETBOARD
vFOUR-STRING FRETBOARD
vG CLEF
zEF OTTAVA ALTA
zEF OTTAVA BASSA
vC CLEF
vF CLEF
zEF OTTAVA ALTA
zEF OTTAVA BASSA
vDRUM CLEF-1
z CLEF-2
3vMULTIPLE MEASURE REST
vDOUBLE SHARP
zLE FLAT
vFLAT UP
z DOWN
vNATURAL UP
zRAL DOWN
vSHARP UP
zP DOWN
vQUARTER TONE SHARP
zTER TONE FLAT
vCOMMON TIME
wUT TIME
vOTTAVA ALTA
zVA BASSA
vQUINDICESIMA ALTA
zDICESIMA BASSA
vMULTI REST
vWHOLE REST
vHALF REST
vQUARTER REST
vEIGHTH REST
vSIXTEENTH REST
vTHIRTY-SECOND REST
vSIXTY-FOURTH REST
vONE HUNDRED TWENTY-EIGHTH REST
vX NOTEHEAD
vPLUS NOTEHEAD
vCIRCLE X NOTEHEAD
vSQUARE NOTEHEAD WHITE
zRE NOTEHEAD BLACK
vTRIANGLE NOTEHEAD UP WHITE
zNGLE NOTEHEAD UP BLACK
zNGLE NOTEHEAD LEFT WHITE
zNGLE NOTEHEAD LEFT BLACK
zNGLE NOTEHEAD RIGHT WHITE
zNGLE NOTEHEAD RIGHT BLACK
zNGLE NOTEHEAD DOWN WHITE
zNGLE NOTEHEAD DOWN BLACK
zNGLE NOTEHEAD UP RIGHT WHITE
zNGLE NOTEHEAD UP RIGHT BLACK
vMOON NOTEHEAD WHITE
z NOTEHEAD BLACK
vTRIANGLE-ROUND NOTEHEAD DOWN WHITE
zNGLE-ROUND NOTEHEAD DOWN BLACK
vPARENTHESIS NOTEHEAD
vVOID NOTEHEAD
vNOTEHEAD BLACK
wULL NOTEHEAD
vCLUSTER NOTEHEAD WHITE
zTER NOTEHEAD BLACK
vBREVE
vWHOLE NOTE
vHALF NOTE
vQUARTER NOTE
vEIGHTH NOTE
vSIXTEENTH NOTE
vTHIRTY-SECOND NOTE
vSIXTY-FOURTH NOTE
vONE HUNDRED TWENTY-EIGHTH NOTE
vCOMBINING STEM
zINING SPRECHGESANG STEM
zINING TREMOLO-1
zINING TREMOLO-2
zINING TREMOLO-3
vFINGERED TREMOLO-1
zERED TREMOLO-2
zERED TREMOLO-3
vCOMBINING AUGMENTATION DOT
zINING FLAG-1
zINING FLAG-2
zINING FLAG-3
zINING FLAG-4
zINING FLAG-5
vBEGIN BEAM
vEND BEAM
vBEGIN TIE
vEND TIE
vBEGIN SLUR
vEND SLUR
vBEGIN PHRASE
vEND PHRASE
vCOMBINING ACCENT
zINING STACCATO
zINING TENUTO
zINING STACCATISSIMO
zINING MARCATO
zINING MARCATO-STACCATO
zINING ACCENT-STACCATO
zINING LOURE
vARPEGGIATO UP
zGGIATO DOWN
vCOMBINING DOIT
zINING RIP
zINING FLIP
zINING SMEAR
zINING BEND
zINING DOUBLE TONGUE
zINING TRIPLE TONGUE
vRINFORZANDO
vSUBITO
vZ
vPIANO
vMEZZO
vFORTE
vCRESCENDO
vDECRESCENDO
vGRACE NOTE SLASH
zE NOTE NO SLASH
vTR
wURN
vINVERTED TURN
vTURN SLASH
z UP
vORNAMENT STROKE-1
zMENT STROKE-2
zMENT STROKE-3
zMENT STROKE-4
zMENT STROKE-5
zMENT STROKE-6
zMENT STROKE-7
zMENT STROKE-8
zMENT STROKE-9
zMENT STROKE-10
zMENT STROKE-11
vHAUPTSTIMME
vNEBENSTIMME
vEND OF STIMME
vDEGREE SLASH
vCOMBINING DOWN BOW
zINING UP BOW
zINING HARMONIC
zINING SNAP PIZZICATO
vPEDAL MARK
zL UP MARK
vHALF PEDAL MARK
vGLISSANDO UP
zSANDO DOWN
vWITH FINGERNAILS
vDAMP
z ALL
vMAXIMA
vLONGA
vBREVIS
vSEMIBREVIS WHITE
zBREVIS BLACK
vMINIMA
zMA BLACK
vSEMIMINIMA WHITE
zMINIMA BLACK
vFUSA WHITE
z BLACK
vLONGA PERFECTA REST
zA IMPERFECTA REST
vBREVIS REST
vSEMIBREVIS REST
vMINIMA REST
vSEMIMINIMA REST
vTEMPUS PERFECTUM CUM PROLATIONE PERFECTA
zUS PERFECTUM CUM PROLATIONE IMPERFECTA
zUS PERFECTUM CUM PROLATIONE PERFECTA DIMINUTION-1
zUS IMPERFECTUM CUM PROLATIONE PERFECTA
zUS IMPERFECTUM CUM PROLATIONE IMPERFECTA
zUS IMPERFECTUM CUM PROLATIONE IMPERFECTA DIMINUTION-1
zUS IMPERFECTUM CUM PROLATIONE IMPERFECTA DIMINUTION-2
zUS IMPERFECTUM CUM PROLATIONE IMPERFECTA DIMINUTION-3
vCROIX
vGREGORIAN C CLEF
zORIAN F CLEF
vSQUARE B
vVIRGA
vPODATUS
vCLIVIS
vSCANDICUS
vCLIMACUS
vTORCULUS
vPORRECTUS
zECTUS FLEXUS
vSCANDICUS FLEXUS
vTORCULUS RESUPINUS
vPES SUBPUNCTIS
vKIEVAN C CLEF
zAN END OF PIECE
zAN FINAL NOTE
zAN RECITATIVE MARK
zAN WHOLE NOTE
zAN HALF NOTE
zAN QUARTER NOTE STEM DOWN
zAN QUARTER NOTE STEM UP
zAN EIGHTH NOTE STEM DOWN
zAN EIGHTH NOTE STEM UP
zAN FLAT SIGN
vSORI
vKORON
16gGREEK VOCAL NOTATION SYMBOL-1
zN SYMBOL-2
zN SYMBOL-3
zN SYMBOL-4
zN SYMBOL-5
zN SYMBOL-6
zN SYMBOL-7
zN SYMBOL-8
zN SYMBOL-9
zN SYMBOL-10
zN SYMBOL-11
zN SYMBOL-12
zN SYMBOL-13
zN SYMBOL-14
zN SYMBOL-15
zN SYMBOL-16
zN SYMBOL-17
zN SYMBOL-18
zN SYMBOL-19
zN SYMBOL-20
zN SYMBOL-21
zN SYMBOL-22
zN SYMBOL-23
zN SYMBOL-24
zN SYMBOL-50
zN SYMBOL-51
zN SYMBOL-52
zN SYMBOL-53
zN SYMBOL-54
mINSTRUMENTAL NOTATION SYMBOL-1
zNOTATION SYMBOL-2
zNOTATION SYMBOL-4
zNOTATION SYMBOL-5
zNOTATION SYMBOL-7
zNOTATION SYMBOL-8
zNOTATION SYMBOL-11
zNOTATION SYMBOL-12
zNOTATION SYMBOL-13
zNOTATION SYMBOL-14
zNOTATION SYMBOL-17
zNOTATION SYMBOL-18
zNOTATION SYMBOL-19
zNOTATION SYMBOL-23
zNOTATION SYMBOL-24
zNOTATION SYMBOL-25
zNOTATION SYMBOL-26
zNOTATION SYMBOL-27
zNOTATION SYMBOL-29
zNOTATION SYMBOL-30
zNOTATION SYMBOL-32
zNOTATION SYMBOL-36
zNOTATION SYMBOL-37
zNOTATION SYMBOL-38
zNOTATION SYMBOL-39
zNOTATION SYMBOL-40
zNOTATION SYMBOL-42
zNOTATION SYMBOL-43
zNOTATION SYMBOL-45
zNOTATION SYMBOL-47
zNOTATION SYMBOL-48
zNOTATION SYMBOL-49
zNOTATION SYMBOL-50
zNOTATION SYMBOL-51
zNOTATION SYMBOL-52
zNOTATION SYMBOL-53
zNOTATION SYMBOL-54
gCOMBINING GREEK MUSICAL TRISEME
zICAL TETRASEME
zICAL PENTASEME
gGREEK MUSICAL LEIMMA
7bgKAKTOVIK NUMERAL ZERO
xONE
xTWO
yHREE
xFOUR
yIVE
xSIX
yEVEN
xEIGHT
xNINE
xTEN
xELEVEN
xTWELVE
yHIRTEEN
xFOURTEEN
yIFTEEN
xSIXTEEN
yEVENTEEN
xEIGHTEEN
xNINETEEN
dgMAYAN NUMERAL ZERO
uONE
uTWO
vHREE
uFOUR
vIVE
uSIX
vEVEN
uEIGHT
uNINE
uTEN
uELEVEN
uTWELVE
vHIRTEEN
uFOURTEEN
vIFTEEN
uSIXTEEN
vEVENTEEN
uEIGHTEEN
uNINETEEN
dhONOGRAM FOR EARTH
gDIGRAM FOR HEAVENLY EARTH
sUMAN EARTH
rEARTHLY HEAVEN
zHUMAN
w
gTETRAGRAM FOR CENTRE
uFULL CIRCLE
uMIRED
uBARRIER
uKEEPING SMALL
uCONTRARIETY
uASCENT
uOPPOSITION
uBRANCHING OUT
uDEFECTIVENESS OR DISTORTION
vIVERGENCE
uYOUTHFULNESS
uINCREASE
uPENETRATION
uREACH
uCONTACT
uHOLDING BACK
uWAITING
uFOLLOWING
uADVANCE
uRELEASE
wSISTANCE
uEASE
uJOY
uCONTENTION
uENDEAVOUR
uDUTIES
uCHANGE
uDECISIVENESS
uBOLD RESOLUTION
uPACKING
uLEGION
uCLOSENESS
uKINSHIP
uGATHERING
uSTRENGTH
uPURITY
uFULLNESS
uRESIDENCE
uLAW OR MODEL
uRESPONSE
uGOING TO MEET
uENCOUNTERS
uSTOVE
uGREATNESS
uENLARGEMENT
uPATTERN
uRITUAL
uFLIGHT
uVASTNESS OR WASTING
uCONSTANCY
uMEASURE
uETERNITY
uUNITY
uDIMINISHMENT
uCLOSED MOUTH
uGUARDEDNESS
vATHERING IN
uMASSING
uACCUMULATION
uEMBELLISHMENT
uDOUBT
uWATCH
uSINKING
uINNER
uDEPARTURE
vARKENING
vIMMING
uEXHAUSTION
uSEVERANCE
vTOPPAGE
uHARDNESS
uCOMPLETION
vLOSURE
uFAILURE
uAGGRAVATION
uCOMPLIANCE
uON THE VERGE
uDIFFICULTIES
uLABOURING
uFOSTERING
agCOUNTING ROD UNIT DIGIT ONE
zIGIT TWO
zIGIT THREE
zIGIT FOUR
zIGIT FIVE
zIGIT SIX
zIGIT SEVEN
zIGIT EIGHT
zIGIT NINE
tTENS DIGIT ONE
zIGIT TWO
zIGIT THREE
zIGIT FOUR
zIGIT FIVE
zIGIT SIX
zIGIT SEVEN
zIGIT EIGHT
zIGIT NINE
gIDEOGRAPHIC TALLY MARK ONE
zARK TWO
zARK THREE
zARK FOUR
zARK FIVE
gTALLY MARK ONE
rFIVE
88gMATHEMATICAL BOLD CAPITAL A
zAPITAL B
zAPITAL C
zAPITAL D
zAPITAL E
zAPITAL F
zAPITAL G
zAPITAL H
zAPITAL I
zAPITAL J
zAPITAL K
zAPITAL L
zAPITAL M
zAPITAL N
zAPITAL O
zAPITAL P
zAPITAL Q
zAPITAL R
zAPITAL S
zAPITAL T
zAPITAL U
zAPITAL V
zAPITAL W
zAPITAL X
zAPITAL Y
zAPITAL Z
ySMALL A
zMALL B
zMALL C
zMALL D
zMALL E
zMALL F
zMALL G
zMALL H
zMALL I
zMALL J
zMALL K
zMALL L
zMALL M
zMALL N
zMALL O
zMALL P
zMALL Q
zMALL R
zMALL S
zMALL T
zMALL U
zMALL V
zMALL W
zMALL X
zMALL Y
zMALL Z
tITALIC CAPITAL A
z CAPITAL B
z CAPITAL C
z CAPITAL D
z CAPITAL E
z CAPITAL F
z CAPITAL G
z CAPITAL H
z CAPITAL I
z CAPITAL J
z CAPITAL K
z CAPITAL L
z CAPITAL M
z CAPITAL N
z CAPITAL O
z CAPITAL P
z CAPITAL Q
z CAPITAL R
z CAPITAL S
z CAPITAL T
z CAPITAL U
z CAPITAL V
z CAPITAL W
z CAPITAL X
z CAPITAL Y
z CAPITAL Z
z SMALL A
z SMALL B
z SMALL C
z SMALL D
z SMALL E
z SMALL F
z SMALL G
2z SMALL I
z SMALL J
z SMALL K
z SMALL L
z SMALL M
z SMALL N
z SMALL O
z SMALL P
z SMALL Q
z SMALL R
z SMALL S
z SMALL T
z SMALL U
z SMALL V
z SMALL W
z SMALL X
z SMALL Y
z SMALL Z
tBOLD ITALIC CAPITAL A
zTALIC CAPITAL B
zTALIC CAPITAL C
zTALIC CAPITAL D
zTALIC CAPITAL E
zTALIC CAPITAL F
zTALIC CAPITAL G
zTALIC CAPITAL H
zTALIC CAPITAL I
zTALIC CAPITAL J
zTALIC CAPITAL K
zTALIC CAPITAL L
zTALIC CAPITAL M
zTALIC CAPITAL N
zTALIC CAPITAL O
zTALIC CAPITAL P
zTALIC CAPITAL Q
zTALIC CAPITAL R
zTALIC CAPITAL S
zTALIC CAPITAL T
zTALIC CAPITAL U
zTALIC CAPITAL V
zTALIC CAPITAL W
zTALIC CAPITAL X
zTALIC CAPITAL Y
zTALIC CAPITAL Z
zTALIC SMALL A
zTALIC SMALL B
zTALIC SMALL C
zTALIC SMALL D
zTALIC SMALL E
zTALIC SMALL F
zTALIC SMALL G
zTALIC SMALL H
zTALIC SMALL I
zTALIC SMALL J
zTALIC SMALL K
zTALIC SMALL L
zTALIC SMALL M
zTALIC SMALL N
zTALIC SMALL O
zTALIC SMALL P
zTALIC SMALL Q
zTALIC SMALL R
zTALIC SMALL S
zTALIC SMALL T
zTALIC SMALL U
zTALIC SMALL V
zTALIC SMALL W
zTALIC SMALL X
zTALIC SMALL Y
zTALIC SMALL Z
tSCRIPT CAPITAL A
2z CAPITAL C
z CAPITAL D
3z CAPITAL G
3z CAPITAL J
z CAPITAL K
3z CAPITAL N
z CAPITAL O
z CAPITAL P
z CAPITAL Q
2z CAPITAL S
z CAPITAL T
z CAPITAL U
z CAPITAL V
z CAPITAL W
z CAPITAL X
z CAPITAL Y
z CAPITAL Z
z SMALL A
z SMALL B
z SMALL C
z SMALL D
2z SMALL F
2z SMALL H
z SMALL I
z SMALL J
z SMALL K
z SMALL L
z SMALL M
z SMALL N
2z SMALL P
z SMALL Q
z SMALL R
z SMALL S
z SMALL T
z SMALL U
z SMALL V
z SMALL W
z SMALL X
z SMALL Y
z SMALL Z
tBOLD SCRIPT CAPITAL A
zCRIPT CAPITAL B
zCRIPT CAPITAL C
zCRIPT CAPITAL D
zCRIPT CAPITAL E
zCRIPT CAPITAL F
zCRIPT CAPITAL G
zCRIPT CAPITAL H
zCRIPT CAPITAL I
zCRIPT CAPITAL J
zCRIPT CAPITAL K
zCRIPT CAPITAL L
zCRIPT CAPITAL M
zCRIPT CAPITAL N
zCRIPT CAPITAL O
zCRIPT CAPITAL P
zCRIPT CAPITAL Q
zCRIPT CAPITAL R
zCRIPT CAPITAL S
zCRIPT CAPITAL T
zCRIPT CAPITAL U
zCRIPT CAPITAL V
zCRIPT CAPITAL W
zCRIPT CAPITAL X
zCRIPT CAPITAL Y
zCRIPT CAPITAL Z
zCRIPT SMALL A
zCRIPT SMALL B
zCRIPT SMALL C
zCRIPT SMALL D
zCRIPT SMALL E
zCRIPT SMALL F
zCRIPT SMALL G
zCRIPT SMALL H
zCRIPT SMALL I
zCRIPT SMALL J
zCRIPT SMALL K
zCRIPT SMALL L
zCRIPT SMALL M
zCRIPT SMALL N
zCRIPT SMALL O
zCRIPT SMALL P
zCRIPT SMALL Q
zCRIPT SMALL R
zCRIPT SMALL S
zCRIPT SMALL T
zCRIPT SMALL U
zCRIPT SMALL V
zCRIPT SMALL W
zCRIPT SMALL X
zCRIPT SMALL Y
zCRIPT SMALL Z
tFRAKTUR CAPITAL A
zR CAPITAL B
2zR CAPITAL D
zR CAPITAL E
zR CAPITAL F
zR CAPITAL G
3zR CAPITAL J
zR CAPITAL K
zR CAPITAL L
zR CAPITAL M
zR CAPITAL N
zR CAPITAL O
zR CAPITAL P
zR CAPITAL Q
2zR CAPITAL S
zR CAPITAL T
zR CAPITAL U
zR CAPITAL V
zR CAPITAL W
zR CAPITAL X
zR CAPITAL Y
2zR SMALL A
zR SMALL B
zR SMALL C
zR SMALL D
zR SMALL E
zR SMALL F
zR SMALL G
zR SMALL H
zR SMALL I
zR SMALL J
zR SMALL K
zR SMALL L
zR SMALL M
zR SMALL N
zR SMALL O
zR SMALL P
zR SMALL Q
zR SMALL R
zR SMALL S
zR SMALL T
zR SMALL U
zR SMALL V
zR SMALL W
zR SMALL X
zR SMALL Y
zR SMALL Z
tDOUBLE-STRUCK CAPITAL A
z-STRUCK CAPITAL B
2z-STRUCK CAPITAL D
z-STRUCK CAPITAL E
z-STRUCK CAPITAL F
z-STRUCK CAPITAL G
2z-STRUCK CAPITAL I
z-STRUCK CAPITAL J
z-STRUCK CAPITAL K
z-STRUCK CAPITAL L
z-STRUCK CAPITAL M
2z-STRUCK CAPITAL O
4z-STRUCK CAPITAL S
z-STRUCK CAPITAL T
z-STRUCK CAPITAL U
z-STRUCK CAPITAL V
z-STRUCK CAPITAL W
z-STRUCK CAPITAL X
z-STRUCK CAPITAL Y
2z-STRUCK SMALL A
z-STRUCK SMALL B
z-STRUCK SMALL C
z-STRUCK SMALL D
z-STRUCK SMALL E
z-STRUCK SMALL F
z-STRUCK SMALL G
z-STRUCK SMALL H
z-STRUCK SMALL I
z-STRUCK SMALL J
z-STRUCK SMALL K
z-STRUCK SMALL L
z-STRUCK SMALL M
z-STRUCK SMALL N
z-STRUCK SMALL O
z-STRUCK SMALL P
z-STRUCK SMALL Q
z-STRUCK SMALL R
z-STRUCK SMALL S
z-STRUCK SMALL T
z-STRUCK SMALL U
z-STRUCK SMALL V
z-STRUCK SMALL W
z-STRUCK SMALL X
z-STRUCK SMALL Y
z-STRUCK SMALL Z
tBOLD FRAKTUR CAPITAL A
zRAKTUR CAPITAL B
zRAKTUR CAPITAL C
zRAKTUR CAPITAL D
zRAKTUR CAPITAL E
zRAKTUR CAPITAL F
zRAKTUR CAPITAL G
zRAKTUR CAPITAL H
zRAKTUR CAPITAL I
zRAKTUR CAPITAL J
zRAKTUR CAPITAL K
zRAKTUR CAPITAL L
zRAKTUR CAPITAL M
zRAKTUR CAPITAL N
zRAKTUR CAPITAL O
zRAKTUR CAPITAL P
zRAKTUR CAPITAL Q
zRAKTUR CAPITAL R
zRAKTUR CAPITAL S
zRAKTUR CAPITAL T
zRAKTUR CAPITAL U
zRAKTUR CAPITAL V
zRAKTUR CAPITAL W
zRAKTUR CAPITAL X
zRAKTUR CAPITAL Y
zRAKTUR CAPITAL Z
zRAKTUR SMALL A
zRAKTUR SMALL B
zRAKTUR SMALL C
zRAKTUR SMALL D
zRAKTUR SMALL E
zRAKTUR SMALL F
zRAKTUR SMALL G
zRAKTUR SMALL H
zRAKTUR SMALL I
zRAKTUR SMALL J
zRAKTUR SMALL K
zRAKTUR SMALL L
zRAKTUR SMALL M
zRAKTUR SMALL N
zRAKTUR SMALL O
zRAKTUR SMALL P
zRAKTUR SMALL Q
zRAKTUR SMALL R
zRAKTUR SMALL S
zRAKTUR SMALL T
zRAKTUR SMALL U
zRAKTUR SMALL V
zRAKTUR SMALL W
zRAKTUR SMALL X
zRAKTUR SMALL Y
zRAKTUR SMALL Z
tSANS-SERIF CAPITAL A
zERIF CAPITAL B
zERIF CAPITAL C
zERIF CAPITAL D
zERIF CAPITAL E
zERIF CAPITAL F
zERIF CAPITAL G
zERIF CAPITAL H
zERIF CAPITAL I
zERIF CAPITAL J
zERIF CAPITAL K
zERIF CAPITAL L
zERIF CAPITAL M
zERIF CAPITAL N
zERIF CAPITAL O
zERIF CAPITAL P
zERIF CAPITAL Q
zERIF CAPITAL R
zERIF CAPITAL S
zERIF CAPITAL T
zERIF CAPITAL U
zERIF CAPITAL V
zERIF CAPITAL W
zERIF CAPITAL X
zERIF CAPITAL Y
zERIF CAPITAL Z
zERIF SMALL A
zERIF SMALL B
zERIF SMALL C
zERIF SMALL D
zERIF SMALL E
zERIF SMALL F
zERIF SMALL G
zERIF SMALL H
zERIF SMALL I
zERIF SMALL J
zERIF SMALL K
zERIF SMALL L
zERIF SMALL M
zERIF SMALL N
zERIF SMALL O
zERIF SMALL P
zERIF SMALL Q
zERIF SMALL R
zERIF SMALL S
zERIF SMALL T
zERIF SMALL U
zERIF SMALL V
zERIF SMALL W
zERIF SMALL X
zERIF SMALL Y
zERIF SMALL Z
zERIF BOLD CAPITAL A
zERIF BOLD CAPITAL B
zERIF BOLD CAPITAL C
zERIF BOLD CAPITAL D
zERIF BOLD CAPITAL E
zERIF BOLD CAPITAL F
zERIF BOLD CAPITAL G
zERIF BOLD CAPITAL H
zERIF BOLD CAPITAL I
zERIF BOLD CAPITAL J
zERIF BOLD CAPITAL K
zERIF BOLD CAPITAL L
zERIF BOLD CAPITAL M
zERIF BOLD CAPITAL N
zERIF BOLD CAPITAL O
zERIF BOLD CAPITAL P
zERIF BOLD CAPITAL Q
zERIF BOLD CAPITAL R
zERIF BOLD CAPITAL S
zERIF BOLD CAPITAL T
zERIF BOLD CAPITAL U
zERIF BOLD CAPITAL V
zERIF BOLD CAPITAL W
zERIF BOLD CAPITAL X
zERIF BOLD CAPITAL Y
zERIF BOLD CAPITAL Z
zERIF BOLD SMALL A
zERIF BOLD SMALL B
zERIF BOLD SMALL C
zERIF BOLD SMALL D
zERIF BOLD SMALL E
zERIF BOLD SMALL F
zERIF BOLD SMALL G
zERIF BOLD SMALL H
zERIF BOLD SMALL I
zERIF BOLD SMALL J
zERIF BOLD SMALL K
zERIF BOLD SMALL L
zERIF BOLD SMALL M
zERIF BOLD SMALL N
zERIF BOLD SMALL O
zERIF BOLD SMALL P
zERIF BOLD SMALL Q
zERIF BOLD SMALL R
zERIF BOLD SMALL S
zERIF BOLD SMALL T
zERIF BOLD SMALL U
zERIF BOLD SMALL V
zERIF BOLD SMALL W
zERIF BOLD SMALL X
zERIF BOLD SMALL Y
zERIF BOLD SMALL Z
zERIF ITALIC CAPITAL A
zERIF ITALIC CAPITAL B
zERIF ITALIC CAPITAL C
zERIF ITALIC CAPITAL D
zERIF ITALIC CAPITAL E
zERIF ITALIC CAPITAL F
zERIF ITALIC CAPITAL G
zERIF ITALIC CAPITAL H
zERIF ITALIC CAPITAL I
zERIF ITALIC CAPITAL J
zERIF ITALIC CAPITAL K
zERIF ITALIC CAPITAL L
zERIF ITALIC CAPITAL M
zERIF ITALIC CAPITAL N
zERIF ITALIC CAPITAL O
zERIF ITALIC CAPITAL P
zERIF ITALIC CAPITAL Q
zERIF ITALIC CAPITAL R
zERIF ITALIC CAPITAL S
zERIF ITALIC CAPITAL T
zERIF ITALIC CAPITAL U
zERIF ITALIC CAPITAL V
zERIF ITALIC CAPITAL W
zERIF ITALIC CAPITAL X
zERIF ITALIC CAPITAL Y
zERIF ITALIC CAPITAL Z
zERIF ITALIC SMALL A
zERIF ITALIC SMALL B
zERIF ITALIC SMALL C
zERIF ITALIC SMALL D
zERIF ITALIC SMALL E
zERIF ITALIC SMALL F
zERIF ITALIC SMALL G
zERIF ITALIC SMALL H
zERIF ITALIC SMALL I
zERIF ITALIC SMALL J
zERIF ITALIC SMALL K
zERIF ITALIC SMALL L
zERIF ITALIC SMALL M
zERIF ITALIC SMALL N
zERIF ITALIC SMALL O
zERIF ITALIC SMALL P
zERIF ITALIC SMALL Q
zERIF ITALIC SMALL R
zERIF ITALIC SMALL S
zERIF ITALIC SMALL T
zERIF ITALIC SMALL U
zERIF ITALIC SMALL V
zERIF ITALIC SMALL W
zERIF ITALIC SMALL X
zERIF ITALIC SMALL Y
zERIF ITALIC SMALL Z
zERIF BOLD ITALIC CAPITAL A
zERIF BOLD ITALIC CAPITAL B
zERIF BOLD ITALIC CAPITAL C
zERIF BOLD ITALIC CAPITAL D
zERIF BOLD ITALIC CAPITAL E
zERIF BOLD ITALIC CAPITAL F
zERIF BOLD ITALIC CAPITAL G
zERIF BOLD ITALIC CAPITAL H
zERIF BOLD ITALIC CAPITAL I
zERIF BOLD ITALIC CAPITAL J
zERIF BOLD ITALIC CAPITAL K
zERIF BOLD ITALIC CAPITAL L
zERIF BOLD ITALIC CAPITAL M
zERIF BOLD ITALIC CAPITAL N
zERIF BOLD ITALIC CAPITAL O
zERIF BOLD ITALIC CAPITAL P
zERIF BOLD ITALIC CAPITAL Q
zERIF BOLD ITALIC CAPITAL R
zERIF BOLD ITALIC CAPITAL S
zERIF BOLD ITALIC CAPITAL T
zERIF BOLD ITALIC CAPITAL U
zERIF BOLD ITALIC CAPITAL V
zERIF BOLD ITALIC CAPITAL W
zERIF BOLD ITALIC CAPITAL X
zERIF BOLD ITALIC CAPITAL Y
zERIF BOLD ITALIC CAPITAL Z
zERIF BOLD ITALIC SMALL A
zERIF BOLD ITALIC SMALL B
zERIF BOLD ITALIC SMALL C
zERIF BOLD ITALIC SMALL D
zERIF BOLD ITALIC SMALL E
zERIF BOLD ITALIC SMALL F
zERIF BOLD ITALIC SMALL G
zERIF BOLD ITALIC SMALL H
zERIF BOLD ITALIC SMALL I
zERIF BOLD ITALIC SMALL J
zERIF BOLD ITALIC SMALL K
zERIF BOLD ITALIC SMALL L
zERIF BOLD ITALIC SMALL M
zERIF BOLD ITALIC SMALL N
zERIF BOLD ITALIC SMALL O
zERIF BOLD ITALIC SMALL P
zERIF BOLD ITALIC SMALL Q
zERIF BOLD ITALIC SMALL R
zERIF BOLD ITALIC SMALL S
zERIF BOLD ITALIC SMALL T
zERIF BOLD ITALIC SMALL U
zERIF BOLD ITALIC SMALL V
zERIF BOLD ITALIC SMALL W
zERIF BOLD ITALIC SMALL X
zERIF BOLD ITALIC SMALL Y
zERIF BOLD ITALIC SMALL Z
tMONOSPACE CAPITAL A
zACE CAPITAL B
zACE CAPITAL C
zACE CAPITAL D
zACE CAPITAL E
zACE CAPITAL F
zACE CAPITAL G
zACE CAPITAL H
zACE CAPITAL I
zACE CAPITAL J
zACE CAPITAL K
zACE CAPITAL L
zACE CAPITAL M
zACE CAPITAL N
zACE CAPITAL O
zACE CAPITAL P
zACE CAPITAL Q
zACE CAPITAL R
zACE CAPITAL S
zACE CAPITAL T
zACE CAPITAL U
zACE CAPITAL V
zACE CAPITAL W
zACE CAPITAL X
zACE CAPITAL Y
zACE CAPITAL Z
zACE SMALL A
zACE SMALL B
zACE SMALL C
zACE SMALL D
zACE SMALL E
zACE SMALL F
zACE SMALL G
zACE SMALL H
zACE SMALL I
zACE SMALL J
zACE SMALL K
zACE SMALL L
zACE SMALL M
zACE SMALL N
zACE SMALL O
zACE SMALL P
zACE SMALL Q
zACE SMALL R
zACE SMALL S
zACE SMALL T
zACE SMALL U
zACE SMALL V
zACE SMALL W
zACE SMALL X
zACE SMALL Y
zACE SMALL Z
tITALIC SMALL DOTLESS I
z SMALL DOTLESS J
3tBOLD CAPITAL ALPHA
zAPITAL BETA
zAPITAL GAMMA
zAPITAL DELTA
zAPITAL EPSILON
zAPITAL ZETA
zAPITAL ETA
zAPITAL THETA
zAPITAL IOTA
zAPITAL KAPPA
zAPITAL LAMDA
zAPITAL MU
zAPITAL NU
zAPITAL XI
zAPITAL OMICRON
zAPITAL PI
zAPITAL RHO
zAPITAL THETA SYMBOL
zAPITAL SIGMA
zAPITAL TAU
zAPITAL UPSILON
zAPITAL PHI
zAPITAL CHI
zAPITAL PSI
zAPITAL OMEGA
yNABLA
ySMALL ALPHA
zMALL BETA
zMALL GAMMA
zMALL DELTA
zMALL EPSILON
zMALL ZETA
zMALL ETA
zMALL THETA
zMALL IOTA
zMALL KAPPA
zMALL LAMDA
zMALL MU
zMALL NU
zMALL XI
zMALL OMICRON
zMALL PI
zMALL RHO
zMALL FINAL SIGMA
zMALL SIGMA
zMALL TAU
zMALL UPSILON
zMALL PHI
zMALL CHI
zMALL PSI
zMALL OMEGA
yPARTIAL DIFFERENTIAL
yEPSILON SYMBOL
yTHETA SYMBOL
yKAPPA SYMBOL
yPHI SYMBOL
yRHO SYMBOL
yPI SYMBOL
tITALIC CAPITAL ALPHA
z CAPITAL BETA
z CAPITAL GAMMA
z CAPITAL DELTA
z CAPITAL EPSILON
z CAPITAL ZETA
z CAPITAL ETA
z CAPITAL THETA
z CAPITAL IOTA
z CAPITAL KAPPA
z CAPITAL LAMDA
z CAPITAL MU
z CAPITAL NU
z CAPITAL XI
z CAPITAL OMICRON
z CAPITAL PI
z CAPITAL RHO
z CAPITAL THETA SYMBOL
z CAPITAL SIGMA
z CAPITAL TAU
z CAPITAL UPSILON
z CAPITAL PHI
z CAPITAL CHI
z CAPITAL PSI
z CAPITAL OMEGA
z NABLA
z SMALL ALPHA
z SMALL BETA
z SMALL GAMMA
z SMALL DELTA
z SMALL EPSILON
z SMALL ZETA
z SMALL ETA
z SMALL THETA
z SMALL IOTA
z SMALL KAPPA
z SMALL LAMDA
z SMALL MU
z SMALL NU
z SMALL XI
z SMALL OMICRON
z SMALL PI
z SMALL RHO
z SMALL FINAL SIGMA
z SMALL SIGMA
z SMALL TAU
z SMALL UPSILON
z SMALL PHI
z SMALL CHI
z SMALL PSI
z SMALL OMEGA
z PARTIAL DIFFERENTIAL
z EPSILON SYMBOL
z THETA SYMBOL
z KAPPA SYMBOL
z PHI SYMBOL
z RHO SYMBOL
z PI SYMBOL
tBOLD ITALIC CAPITAL ALPHA
zTALIC CAPITAL BETA
zTALIC CAPITAL GAMMA
zTALIC CAPITAL DELTA
zTALIC CAPITAL EPSILON
zTALIC CAPITAL ZETA
zTALIC CAPITAL ETA
zTALIC CAPITAL THETA
zTALIC CAPITAL IOTA
zTALIC CAPITAL KAPPA
zTALIC CAPITAL LAMDA
zTALIC CAPITAL MU
zTALIC CAPITAL NU
zTALIC CAPITAL XI
zTALIC CAPITAL OMICRON
zTALIC CAPITAL PI
zTALIC CAPITAL RHO
zTALIC CAPITAL THETA SYMBOL
zTALIC CAPITAL SIGMA
zTALIC CAPITAL TAU
zTALIC CAPITAL UPSILON
zTALIC CAPITAL PHI
zTALIC CAPITAL CHI
zTALIC CAPITAL PSI
zTALIC CAPITAL OMEGA
zTALIC NABLA
zTALIC SMALL ALPHA
zTALIC SMALL BETA
zTALIC SMALL GAMMA
zTALIC SMALL DELTA
zTALIC SMALL EPSILON
zTALIC SMALL ZETA
zTALIC SMALL ETA
zTALIC SMALL THETA
zTALIC SMALL IOTA
zTALIC SMALL KAPPA
zTALIC SMALL LAMDA
zTALIC SMALL MU
zTALIC SMALL NU
zTALIC SMALL XI
zTALIC SMALL OMICRON
zTALIC SMALL PI
zTALIC SMALL RHO
zTALIC SMALL FINAL SIGMA
zTALIC SMALL SIGMA
zTALIC SMALL TAU
zTALIC SMALL UPSILON
zTALIC SMALL PHI
zTALIC SMALL CHI
zTALIC SMALL PSI
zTALIC SMALL OMEGA
zTALIC PARTIAL DIFFERENTIAL
zTALIC EPSILON SYMBOL
zTALIC THETA SYMBOL
zTALIC KAPPA SYMBOL
zTALIC PHI SYMBOL
zTALIC RHO SYMBOL
zTALIC PI SYMBOL
tSANS-SERIF BOLD CAPITAL ALPHA
zERIF BOLD CAPITAL BETA
zERIF BOLD CAPITAL GAMMA
zERIF BOLD CAPITAL DELTA
zERIF BOLD CAPITAL EPSILON
zERIF BOLD CAPITAL ZETA
zERIF BOLD CAPITAL ETA
zERIF BOLD CAPITAL THETA
zERIF BOLD CAPITAL IOTA
zERIF BOLD CAPITAL KAPPA
zERIF BOLD CAPITAL LAMDA
zERIF BOLD CAPITAL MU
zERIF BOLD CAPITAL NU
zERIF BOLD CAPITAL XI
zERIF BOLD CAPITAL OMICRON
zERIF BOLD CAPITAL PI
zERIF BOLD CAPITAL RHO
zERIF BOLD CAPITAL THETA SYMBOL
zERIF BOLD CAPITAL SIGMA
zERIF BOLD CAPITAL TAU
zERIF BOLD CAPITAL UPSILON
zERIF BOLD CAPITAL PHI
zERIF BOLD CAPITAL CHI
zERIF BOLD CAPITAL PSI
zERIF BOLD CAPITAL OMEGA
zERIF BOLD NABLA
zERIF BOLD SMALL ALPHA
zERIF BOLD SMALL BETA
zERIF BOLD SMALL GAMMA
zERIF BOLD SMALL DELTA
zERIF BOLD SMALL EPSILON
zERIF BOLD SMALL ZETA
zERIF BOLD SMALL ETA
zERIF BOLD SMALL THETA
zERIF BOLD SMALL IOTA
zERIF BOLD SMALL KAPPA
zERIF BOLD SMALL LAMDA
zERIF BOLD SMALL MU
zERIF BOLD SMALL NU
zERIF BOLD SMALL XI
zERIF BOLD SMALL OMICRON
zERIF BOLD SMALL PI
zERIF BOLD SMALL RHO
zERIF BOLD SMALL FINAL SIGMA
zERIF BOLD SMALL SIGMA
zERIF BOLD SMALL TAU
zERIF BOLD SMALL UPSILON
zERIF BOLD SMALL PHI
zERIF BOLD SMALL CHI
zERIF BOLD SMALL PSI
zERIF BOLD SMALL OMEGA
zERIF BOLD PARTIAL DIFFERENTIAL
zERIF BOLD EPSILON SYMBOL
zERIF BOLD THETA SYMBOL
zERIF BOLD KAPPA SYMBOL
zERIF BOLD PHI SYMBOL
zERIF BOLD RHO SYMBOL
zERIF BOLD PI SYMBOL
zERIF BOLD ITALIC CAPITAL ALPHA
zERIF BOLD ITALIC CAPITAL BETA
zERIF BOLD ITALIC CAPITAL GAMMA
zERIF BOLD ITALIC CAPITAL DELTA
zERIF BOLD ITALIC CAPITAL EPSILON
zERIF BOLD ITALIC CAPITAL ZETA
zERIF BOLD ITALIC CAPITAL ETA
zERIF BOLD ITALIC CAPITAL THETA
zERIF BOLD ITALIC CAPITAL IOTA
zERIF BOLD ITALIC CAPITAL KAPPA
zERIF BOLD ITALIC CAPITAL LAMDA
zERIF BOLD ITALIC CAPITAL MU
zERIF BOLD ITALIC CAPITAL NU
zERIF BOLD ITALIC CAPITAL XI
zERIF BOLD ITALIC CAPITAL OMICRON
zERIF BOLD ITALIC CAPITAL PI
zERIF BOLD ITALIC CAPITAL RHO
zERIF BOLD ITALIC CAPITAL THETA SYMBOL
zERIF BOLD ITALIC CAPITAL SIGMA
zERIF BOLD ITALIC CAPITAL TAU
zERIF BOLD ITALIC CAPITAL UPSILON
zERIF BOLD ITALIC CAPITAL PHI
zERIF BOLD ITALIC CAPITAL CHI
zERIF BOLD ITALIC CAPITAL PSI
zERIF BOLD ITALIC CAPITAL OMEGA
zERIF BOLD ITALIC NABLA
zERIF BOLD ITALIC SMALL ALPHA
zERIF BOLD ITALIC SMALL BETA
zERIF BOLD ITALIC SMALL GAMMA
zERIF BOLD ITALIC SMALL DELTA
zERIF BOLD ITALIC SMALL EPSILON
zERIF BOLD ITALIC SMALL ZETA
zERIF BOLD ITALIC SMALL ETA
zERIF BOLD ITALIC SMALL THETA
zERIF BOLD ITALIC SMALL IOTA
zERIF BOLD ITALIC SMALL KAPPA
zERIF BOLD ITALIC SMALL LAMDA
zERIF BOLD ITALIC SMALL MU
zERIF BOLD ITALIC SMALL NU
zERIF BOLD ITALIC SMALL XI
zERIF BOLD ITALIC SMALL OMICRON
zERIF BOLD ITALIC SMALL PI
zERIF BOLD ITALIC SMALL RHO
zERIF BOLD ITALIC SMALL FINAL SIGMA
zERIF BOLD ITALIC SMALL SIGMA
zERIF BOLD ITALIC SMALL TAU
zERIF BOLD ITALIC SMALL UPSILON
zERIF BOLD ITALIC SMALL PHI
zERIF BOLD ITALIC SMALL CHI
zERIF BOLD ITALIC SMALL PSI
zERIF BOLD ITALIC SMALL OMEGA
zERIF BOLD ITALIC PARTIAL DIFFERENTIAL
zERIF BOLD ITALIC EPSILON SYMBOL
zERIF BOLD ITALIC THETA SYMBOL
zERIF BOLD ITALIC KAPPA SYMBOL
zERIF BOLD ITALIC PHI SYMBOL
zERIF BOLD ITALIC RHO SYMBOL
zERIF BOLD ITALIC PI SYMBOL
tBOLD CAPITAL DIGAMMA
ySMALL DIGAMMA
3yDIGIT ZERO
zIGIT ONE
zIGIT TWO
zIGIT THREE
zIGIT FOUR
zIGIT FIVE
zIGIT SIX
zIGIT SEVEN
zIGIT EIGHT
zIGIT NINE
tDOUBLE-STRUCK DIGIT ZERO
z-STRUCK DIGIT ONE
z-STRUCK DIGIT TWO
z-STRUCK DIGIT THREE
z-STRUCK DIGIT FOUR
z-STRUCK DIGIT FIVE
z-STRUCK DIGIT SIX
z-STRUCK DIGIT SEVEN
z-STRUCK DIGIT EIGHT
z-STRUCK DIGIT NINE
tSANS-SERIF DIGIT ZERO
zERIF DIGIT ONE
zERIF DIGIT TWO
zERIF DIGIT THREE
zERIF DIGIT FOUR
zERIF DIGIT FIVE
zERIF DIGIT SIX
zERIF DIGIT SEVEN
zERIF DIGIT EIGHT
zERIF DIGIT NINE
zERIF BOLD DIGIT ZERO
zERIF BOLD DIGIT ONE
zERIF BOLD DIGIT TWO
zERIF BOLD DIGIT THREE
zERIF BOLD DIGIT FOUR
zERIF BOLD DIGIT FIVE
zERIF BOLD DIGIT SIX
zERIF BOLD DIGIT SEVEN
zERIF BOLD DIGIT EIGHT
zERIF BOLD DIGIT NINE
tMONOSPACE DIGIT ZERO
zACE DIGIT ONE
zACE DIGIT TWO
zACE DIGIT THREE
zACE DIGIT FOUR
zACE DIGIT FIVE
zACE DIGIT SIX
zACE DIGIT SEVEN
zACE DIGIT EIGHT
zACE DIGIT NINE
gSIGNWRITING HAND-FIST INDEX
xCIRCLE INDEX
yUP INDEX
xOVAL INDEX
xHINGE INDEX
xANGLE INDEX
xFIST INDEX BENT
xCIRCLE INDEX BENT
xFIST THUMB UNDER INDEX BENT
zST INDEX RAISED KNUCKLE
zST INDEX CUPPED
zST INDEX HINGED
zST INDEX HINGED LOW
xCIRCLE INDEX HINGE
xFIST INDEX MIDDLE
xCIRCLE INDEX MIDDLE
xFIST INDEX MIDDLE BENT
zST INDEX MIDDLE RAISED KNUCKLES
zST INDEX MIDDLE HINGED
zST INDEX UP MIDDLE HINGED
zST INDEX HINGED MIDDLE UP
zST INDEX MIDDLE CONJOINED
zST INDEX MIDDLE CONJOINED INDEX BENT
zST INDEX MIDDLE CONJOINED MIDDLE BENT
zST INDEX MIDDLE CONJOINED CUPPED
zST INDEX MIDDLE CONJOINED HINGED
zST INDEX MIDDLE CROSSED
xCIRCLE INDEX MIDDLE CROSSED
xFIST MIDDLE BENT OVER INDEX
zST INDEX BENT OVER MIDDLE
zST INDEX MIDDLE THUMB
xCIRCLE INDEX MIDDLE THUMB
xFIST INDEX MIDDLE STRAIGHT THUMB BENT
zST INDEX MIDDLE BENT THUMB STRAIGHT
zST INDEX MIDDLE THUMB BENT
zST INDEX MIDDLE HINGED SPREAD THUMB SIDE
zST INDEX UP MIDDLE HINGED THUMB SIDE
zST INDEX UP MIDDLE HINGED THUMB CONJOINED
zST INDEX HINGED MIDDLE UP THUMB SIDE
zST INDEX MIDDLE UP SPREAD THUMB FORWARD
zST INDEX MIDDLE THUMB CUPPED
zST INDEX MIDDLE THUMB CIRCLED
zST INDEX MIDDLE THUMB HOOKED
zST INDEX MIDDLE THUMB HINGED
zST THUMB BETWEEN INDEX MIDDLE STRAIGHT
zST INDEX MIDDLE CONJOINED THUMB SIDE
zST INDEX MIDDLE CONJOINED THUMB SIDE CONJOINED
zST INDEX MIDDLE CONJOINED THUMB SIDE BENT
zST MIDDLE THUMB HOOKED INDEX UP
zST INDEX THUMB HOOKED MIDDLE UP
zST INDEX MIDDLE CONJOINED HINGED THUMB SIDE
zST INDEX MIDDLE CROSSED THUMB SIDE
zST INDEX MIDDLE CONJOINED THUMB FORWARD
zST INDEX MIDDLE CONJOINED CUPPED THUMB FORWARD
zST MIDDLE THUMB CUPPED INDEX UP
zST INDEX THUMB CUPPED MIDDLE UP
zST MIDDLE THUMB CIRCLED INDEX UP
zST MIDDLE THUMB CIRCLED INDEX HINGED
zST INDEX THUMB ANGLED OUT MIDDLE UP
zST INDEX THUMB ANGLED IN MIDDLE UP
zST INDEX THUMB CIRCLED MIDDLE UP
zST INDEX MIDDLE THUMB CONJOINED HINGED
zST INDEX MIDDLE THUMB ANGLED OUT
zST INDEX MIDDLE THUMB ANGLED
zST MIDDLE THUMB ANGLED OUT INDEX UP
zST MIDDLE THUMB ANGLED OUT INDEX CROSSED
zST MIDDLE THUMB ANGLED INDEX UP
zST INDEX THUMB HOOKED MIDDLE HINGED
yLAT FOUR FINGERS
zAT FOUR FINGERS BENT
zAT FOUR FINGERS HINGED
zAT FOUR FINGERS CONJOINED
zAT FOUR FINGERS CONJOINED SPLIT
xCLAW FOUR FINGERS CONJOINED
xFIST FOUR FINGERS CONJOINED BENT
xHINGE FOUR FINGERS CONJOINED
xFLAT FIVE FINGERS SPREAD
zAT HEEL FIVE FINGERS SPREAD
zAT FIVE FINGERS SPREAD FOUR BENT
zAT HEEL FIVE FINGERS SPREAD FOUR BENT
zAT FIVE FINGERS SPREAD BENT
zAT HEEL FIVE FINGERS SPREAD BENT
zAT FIVE FINGERS SPREAD THUMB FORWARD
xCUP FIVE FINGERS SPREAD
zP FIVE FINGERS SPREAD OPEN
xHINGE FIVE FINGERS SPREAD OPEN
xOVAL FIVE FINGERS SPREAD
xFLAT FIVE FINGERS SPREAD HINGED
zAT FIVE FINGERS SPREAD HINGED THUMB SIDE
zAT FIVE FINGERS SPREAD HINGED NO THUMB
zAT
zAT BETWEEN PALM FACINGS
zAT HEEL
zAT THUMB SIDE
zAT HEEL THUMB SIDE
zAT THUMB BENT
zAT THUMB FORWARD
zAT SPLIT INDEX THUMB SIDE
zAT SPLIT CENTRE
zAT SPLIT CENTRE THUMB SIDE
zAT SPLIT CENTRE THUMB SIDE BENT
zAT SPLIT LITTLE
xCLAW
zAW THUMB SIDE
zAW NO THUMB
zAW THUMB FORWARD
xHOOK CURLICUE
zOK
xCUP OPEN
zP
zP OPEN THUMB SIDE
zP THUMB SIDE
zP OPEN NO THUMB
zP NO THUMB
zP OPEN THUMB FORWARD
zP THUMB FORWARD
zRLICUE OPEN
zRLICUE
yIRCLE
xOVAL
zAL THUMB SIDE
zAL NO THUMB
zAL THUMB FORWARD
xHINGE OPEN
zNGE OPEN THUMB FORWARD
zNGE
zNGE SMALL
zNGE OPEN THUMB SIDE
zNGE THUMB SIDE
zNGE OPEN NO THUMB
zNGE NO THUMB
zNGE THUMB SIDE TOUCHING INDEX
zNGE THUMB BETWEEN MIDDLE RING
xANGLE
xFIST INDEX MIDDLE RING
xCIRCLE INDEX MIDDLE RING
xHINGE INDEX MIDDLE RING
xANGLE INDEX MIDDLE RING
xHINGE LITTLE
xFIST INDEX MIDDLE RING BENT
zST INDEX MIDDLE RING CONJOINED
xHINGE INDEX MIDDLE RING CONJOINED
xFIST LITTLE DOWN
zST LITTLE DOWN RIPPLE STRAIGHT
zST LITTLE DOWN RIPPLE CURVED
zST LITTLE DOWN OTHERS CIRCLED
zST LITTLE UP
zST THUMB UNDER LITTLE UP
xCIRCLE LITTLE UP
xOVAL LITTLE UP
xANGLE LITTLE UP
xFIST LITTLE RAISED KNUCKLE
zST LITTLE BENT
zST LITTLE TOUCHES THUMB
zST LITTLE THUMB
xHINGE LITTLE THUMB
xFIST LITTLE INDEX THUMB
xHINGE LITTLE INDEX THUMB
xANGLE LITTLE INDEX THUMB INDEX THUMB OUT
zGLE LITTLE INDEX THUMB INDEX THUMB
xFIST LITTLE INDEX
xCIRCLE LITTLE INDEX
xHINGE LITTLE INDEX
xANGLE LITTLE INDEX
xFIST INDEX MIDDLE LITTLE
xCIRCLE INDEX MIDDLE LITTLE
xHINGE INDEX MIDDLE LITTLE
zNGE RING
xANGLE INDEX MIDDLE LITTLE
xFIST INDEX MIDDLE CROSS LITTLE
xCIRCLE INDEX MIDDLE CROSS LITTLE
xFIST RING DOWN
xHINGE RING DOWN INDEX THUMB HOOK MIDDLE
xANGLE RING DOWN MIDDLE THUMB INDEX CROSS
xFIST RING UP
zST RING RAISED KNUCKLE
zST RING LITTLE
xCIRCLE RING LITTLE
xOVAL RING LITTLE
xANGLE RING LITTLE
xFIST RING MIDDLE
zST RING MIDDLE CONJOINED
zST RING MIDDLE RAISED KNUCKLES
zST RING INDEX
zST RING THUMB
xHOOK RING THUMB
xFIST INDEX RING LITTLE
xCIRCLE INDEX RING LITTLE
yURLICUE INDEX RING LITTLE ON
xHOOK INDEX RING LITTLE OUT
zOK INDEX RING LITTLE IN
zOK INDEX RING LITTLE UNDER
xCUP INDEX RING LITTLE
xHINGE INDEX RING LITTLE
xANGLE INDEX RING LITTLE OUT
zGLE INDEX RING LITTLE
xFIST MIDDLE DOWN
xHINGE MIDDLE
xFIST MIDDLE UP
xCIRCLE MIDDLE UP
xFIST MIDDLE RAISED KNUCKLE
zST MIDDLE UP THUMB SIDE
xHOOK MIDDLE THUMB
xFIST MIDDLE THUMB LITTLE
zST MIDDLE LITTLE
zST MIDDLE RING LITTLE
xCIRCLE MIDDLE RING LITTLE
yURLICUE MIDDLE RING LITTLE ON
zP MIDDLE RING LITTLE
xHINGE MIDDLE RING LITTLE
xANGLE MIDDLE RING LITTLE OUT
zGLE MIDDLE RING LITTLE IN
zGLE MIDDLE RING LITTLE
xCIRCLE MIDDLE RING LITTLE BENT
yLAW MIDDLE RING LITTLE CONJOINED
zAW MIDDLE RING LITTLE CONJOINED SIDE
xHOOK MIDDLE RING LITTLE CONJOINED OUT
zOK MIDDLE RING LITTLE CONJOINED IN
zOK MIDDLE RING LITTLE CONJOINED
yINGE INDEX HINGED
xFIST INDEX THUMB SIDE
xHINGE INDEX THUMB SIDE
xFIST INDEX THUMB SIDE THUMB DIAGONAL
zST INDEX THUMB SIDE THUMB CONJOINED
zST INDEX THUMB SIDE THUMB BENT
zST INDEX THUMB SIDE INDEX BENT
zST INDEX THUMB SIDE BOTH BENT
zST INDEX THUMB SIDE INDEX HINGE
zST INDEX THUMB FORWARD INDEX STRAIGHT
zST INDEX THUMB FORWARD INDEX BENT
zST INDEX THUMB HOOK
zST INDEX THUMB CURLICUE
zST INDEX THUMB CURVE THUMB INSIDE
xCLAW INDEX THUMB CURVE THUMB INSIDE
xFIST INDEX THUMB CURVE THUMB UNDER
zST INDEX THUMB CIRCLE
xCUP INDEX THUMB
zP INDEX THUMB OPEN
xHINGE INDEX THUMB OPEN
zNGE INDEX THUMB LARGE
zNGE INDEX THUMB
zNGE INDEX THUMB SMALL
xANGLE INDEX THUMB OUT
zGLE INDEX THUMB IN
zGLE INDEX THUMB
xFIST THUMB
zST THUMB HEEL
zST THUMB SIDE DIAGONAL
zST THUMB SIDE CONJOINED
zST THUMB SIDE BENT
zST THUMB FORWARD
zST THUMB BETWEEN INDEX MIDDLE
zST THUMB BETWEEN MIDDLE RING
zST THUMB BETWEEN RING LITTLE
zST THUMB UNDER TWO FINGERS
zST THUMB OVER TWO FINGERS
zST THUMB UNDER THREE FINGERS
zST THUMB UNDER FOUR FINGERS
zST THUMB OVER FOUR RAISED KNUCKLES
zST
zST HEEL
sTOUCH SINGLE
yMULTIPLE
yBETWEEN
sGRASP SINGLE
yMULTIPLE
yBETWEEN
sSTRIKE SINGLE
zMULTIPLE
zBETWEEN
sBRUSH SINGLE
yMULTIPLE
yBETWEEN
sRUB SINGLE
wMULTIPLE
wBETWEEN
sSURFACE SYMBOLS
z BETWEEN
tQUEEZE LARGE SINGLE
z SMALL SINGLE
z LARGE MULTIPLE
z SMALL MULTIPLE
z SEQUENTIAL
sFLICK LARGE SINGLE
ySMALL SINGLE
yLARGE MULTIPLE
ySMALL MULTIPLE
zEQUENTIAL
sSQUEEZE FLICK ALTERNATING
sMOVEMENT-HINGE UP DOWN LARGE
zT-HINGE UP DOWN SMALL
zT-HINGE UP SEQUENTIAL
zT-HINGE DOWN SEQUENTIAL
zT-HINGE UP DOWN ALTERNATING LARGE
zT-HINGE UP DOWN ALTERNATING SMALL
zT-HINGE SIDE TO SIDE SCISSORS
zT-WALLPLANE FINGER CONTACT
zT-FLOORPLANE FINGER CONTACT
zT-WALLPLANE SINGLE STRAIGHT SMALL
zT-WALLPLANE SINGLE STRAIGHT MEDIUM
zT-WALLPLANE SINGLE STRAIGHT LARGE
zT-WALLPLANE SINGLE STRAIGHT LARGEST
zT-WALLPLANE SINGLE WRIST FLEX
zT-WALLPLANE DOUBLE STRAIGHT
zT-WALLPLANE DOUBLE WRIST FLEX
zT-WALLPLANE DOUBLE ALTERNATING
zT-WALLPLANE DOUBLE ALTERNATING WRIST FLEX
zT-WALLPLANE CROSS
zT-WALLPLANE TRIPLE STRAIGHT MOVEMENT
zT-WALLPLANE TRIPLE WRIST FLEX
zT-WALLPLANE TRIPLE ALTERNATING
zT-WALLPLANE TRIPLE ALTERNATING WRIST FLEX
zT-WALLPLANE BEND SMALL
zT-WALLPLANE BEND MEDIUM
zT-WALLPLANE BEND LARGE
zT-WALLPLANE CORNER SMALL
zT-WALLPLANE CORNER MEDIUM
zT-WALLPLANE CORNER LARGE
zT-WALLPLANE CORNER ROTATION
zT-WALLPLANE CHECK SMALL
zT-WALLPLANE CHECK MEDIUM
zT-WALLPLANE CHECK LARGE
zT-WALLPLANE BOX SMALL
zT-WALLPLANE BOX MEDIUM
zT-WALLPLANE BOX LARGE
zT-WALLPLANE ZIGZAG SMALL
zT-WALLPLANE ZIGZAG MEDIUM
zT-WALLPLANE ZIGZAG LARGE
zT-WALLPLANE PEAKS SMALL
zT-WALLPLANE PEAKS MEDIUM
zT-WALLPLANE PEAKS LARGE
sTRAVEL-WALLPLANE ROTATION-WALLPLANE SINGLE
zWALLPLANE ROTATION-WALLPLANE DOUBLE
zWALLPLANE ROTATION-WALLPLANE ALTERNATING
zWALLPLANE ROTATION-FLOORPLANE SINGLE
zWALLPLANE ROTATION-FLOORPLANE DOUBLE
zWALLPLANE ROTATION-FLOORPLANE ALTERNATING
zWALLPLANE SHAKING
zWALLPLANE ARM SPIRAL SINGLE
zWALLPLANE ARM SPIRAL DOUBLE
zWALLPLANE ARM SPIRAL TRIPLE
sMOVEMENT-DIAGONAL AWAY SMALL
zT-DIAGONAL AWAY MEDIUM
zT-DIAGONAL AWAY LARGE
zT-DIAGONAL AWAY LARGEST
zT-DIAGONAL TOWARDS SMALL
zT-DIAGONAL TOWARDS MEDIUM
zT-DIAGONAL TOWARDS LARGE
zT-DIAGONAL TOWARDS LARGEST
zT-DIAGONAL BETWEEN AWAY SMALL
zT-DIAGONAL BETWEEN AWAY MEDIUM
zT-DIAGONAL BETWEEN AWAY LARGE
zT-DIAGONAL BETWEEN AWAY LARGEST
zT-DIAGONAL BETWEEN TOWARDS SMALL
zT-DIAGONAL BETWEEN TOWARDS MEDIUM
zT-DIAGONAL BETWEEN TOWARDS LARGE
zT-DIAGONAL BETWEEN TOWARDS LARGEST
zT-FLOORPLANE SINGLE STRAIGHT SMALL
zT-FLOORPLANE SINGLE STRAIGHT MEDIUM
zT-FLOORPLANE SINGLE STRAIGHT LARGE
zT-FLOORPLANE SINGLE STRAIGHT LARGEST
zT-FLOORPLANE SINGLE WRIST FLEX
zT-FLOORPLANE DOUBLE STRAIGHT
zT-FLOORPLANE DOUBLE WRIST FLEX
zT-FLOORPLANE DOUBLE ALTERNATING
zT-FLOORPLANE DOUBLE ALTERNATING WRIST FLEX
zT-FLOORPLANE CROSS
zT-FLOORPLANE TRIPLE STRAIGHT MOVEMENT
zT-FLOORPLANE TRIPLE WRIST FLEX
zT-FLOORPLANE TRIPLE ALTERNATING MOVEMENT
zT-FLOORPLANE TRIPLE ALTERNATING WRIST FLEX
zT-FLOORPLANE BEND
zT-FLOORPLANE CORNER SMALL
zT-FLOORPLANE CORNER MEDIUM
zT-FLOORPLANE CORNER LARGE
zT-FLOORPLANE CHECK
zT-FLOORPLANE BOX SMALL
zT-FLOORPLANE BOX MEDIUM
zT-FLOORPLANE BOX LARGE
zT-FLOORPLANE ZIGZAG SMALL
zT-FLOORPLANE ZIGZAG MEDIUM
zT-FLOORPLANE ZIGZAG LARGE
zT-FLOORPLANE PEAKS SMALL
zT-FLOORPLANE PEAKS MEDIUM
zT-FLOORPLANE PEAKS LARGE
sTRAVEL-FLOORPLANE ROTATION-FLOORPLANE SINGLE
zFLOORPLANE ROTATION-FLOORPLANE DOUBLE
zFLOORPLANE ROTATION-FLOORPLANE ALTERNATING
zFLOORPLANE ROTATION-WALLPLANE SINGLE
zFLOORPLANE ROTATION-WALLPLANE DOUBLE
zFLOORPLANE ROTATION-WALLPLANE ALTERNATING
zFLOORPLANE SHAKING
sMOVEMENT-WALLPLANE CURVE QUARTER SMALL
zT-WALLPLANE CURVE QUARTER MEDIUM
zT-WALLPLANE CURVE QUARTER LARGE
zT-WALLPLANE CURVE QUARTER LARGEST
zT-WALLPLANE CURVE HALF-CIRCLE SMALL
zT-WALLPLANE CURVE HALF-CIRCLE MEDIUM
zT-WALLPLANE CURVE HALF-CIRCLE LARGE
zT-WALLPLANE CURVE HALF-CIRCLE LARGEST
zT-WALLPLANE CURVE THREE-QUARTER CIRCLE SMALL
zT-WALLPLANE CURVE THREE-QUARTER CIRCLE MEDIUM
zT-WALLPLANE HUMP SMALL
zT-WALLPLANE HUMP MEDIUM
zT-WALLPLANE HUMP LARGE
zT-WALLPLANE LOOP SMALL
zT-WALLPLANE LOOP MEDIUM
zT-WALLPLANE LOOP LARGE
zT-WALLPLANE LOOP SMALL DOUBLE
zT-WALLPLANE WAVE CURVE DOUBLE SMALL
zT-WALLPLANE WAVE CURVE DOUBLE MEDIUM
zT-WALLPLANE WAVE CURVE DOUBLE LARGE
zT-WALLPLANE WAVE CURVE TRIPLE SMALL
zT-WALLPLANE WAVE CURVE TRIPLE MEDIUM
zT-WALLPLANE WAVE CURVE TRIPLE LARGE
zT-WALLPLANE CURVE THEN STRAIGHT
zT-WALLPLANE CURVED CROSS SMALL
zT-WALLPLANE CURVED CROSS MEDIUM
sROTATION-WALLPLANE SINGLE
zN-WALLPLANE DOUBLE
zN-WALLPLANE ALTERNATE
sMOVEMENT-WALLPLANE SHAKING
zT-WALLPLANE CURVE HITTING FRONT WALL
zT-WALLPLANE HUMP HITTING FRONT WALL
zT-WALLPLANE LOOP HITTING FRONT WALL
zT-WALLPLANE WAVE HITTING FRONT WALL
sROTATION-WALLPLANE SINGLE HITTING FRONT WALL
zN-WALLPLANE DOUBLE HITTING FRONT WALL
zN-WALLPLANE ALTERNATING HITTING FRONT WALL
sMOVEMENT-WALLPLANE CURVE HITTING CHEST
zT-WALLPLANE HUMP HITTING CHEST
zT-WALLPLANE LOOP HITTING CHEST
zT-WALLPLANE WAVE HITTING CHEST
sROTATION-WALLPLANE SINGLE HITTING CHEST
zN-WALLPLANE DOUBLE HITTING CHEST
zN-WALLPLANE ALTERNATING HITTING CHEST
sMOVEMENT-WALLPLANE WAVE DIAGONAL PATH SMALL
zT-WALLPLANE WAVE DIAGONAL PATH MEDIUM
zT-WALLPLANE WAVE DIAGONAL PATH LARGE
zT-FLOORPLANE CURVE HITTING CEILING SMALL
zT-FLOORPLANE CURVE HITTING CEILING LARGE
zT-FLOORPLANE HUMP HITTING CEILING SMALL DOUBLE
zT-FLOORPLANE HUMP HITTING CEILING LARGE DOUBLE
zT-FLOORPLANE HUMP HITTING CEILING SMALL TRIPLE
zT-FLOORPLANE HUMP HITTING CEILING LARGE TRIPLE
zT-FLOORPLANE LOOP HITTING CEILING SMALL SINGLE
zT-FLOORPLANE LOOP HITTING CEILING LARGE SINGLE
zT-FLOORPLANE LOOP HITTING CEILING SMALL DOUBLE
zT-FLOORPLANE LOOP HITTING CEILING LARGE DOUBLE
zT-FLOORPLANE WAVE HITTING CEILING SMALL
zT-FLOORPLANE WAVE HITTING CEILING LARGE
sROTATION-FLOORPLANE SINGLE HITTING CEILING
zN-FLOORPLANE DOUBLE HITTING CEILING
zN-FLOORPLANE ALTERNATING HITTING CEILING
sMOVEMENT-FLOORPLANE CURVE HITTING FLOOR SMALL
zT-FLOORPLANE CURVE HITTING FLOOR LARGE
zT-FLOORPLANE HUMP HITTING FLOOR SMALL DOUBLE
zT-FLOORPLANE HUMP HITTING FLOOR LARGE DOUBLE
zT-FLOORPLANE HUMP HITTING FLOOR TRIPLE SMALL TRIPLE
zT-FLOORPLANE HUMP HITTING FLOOR TRIPLE LARGE TRIPLE
zT-FLOORPLANE LOOP HITTING FLOOR SMALL SINGLE
zT-FLOORPLANE LOOP HITTING FLOOR LARGE SINGLE
zT-FLOORPLANE LOOP HITTING FLOOR SMALL DOUBLE
zT-FLOORPLANE LOOP HITTING FLOOR LARGE DOUBLE
zT-FLOORPLANE WAVE HITTING FLOOR SMALL
zT-FLOORPLANE WAVE HITTING FLOOR LARGE
sROTATION-FLOORPLANE SINGLE HITTING FLOOR
zN-FLOORPLANE DOUBLE HITTING FLOOR
zN-FLOORPLANE ALTERNATING HITTING FLOOR
sMOVEMENT-FLOORPLANE CURVE SMALL
zT-FLOORPLANE CURVE MEDIUM
zT-FLOORPLANE CURVE LARGE
zT-FLOORPLANE CURVE LARGEST
zT-FLOORPLANE CURVE COMBINED
zT-FLOORPLANE HUMP SMALL
zT-FLOORPLANE LOOP SMALL
zT-FLOORPLANE WAVE SNAKE
zT-FLOORPLANE WAVE SMALL
zT-FLOORPLANE WAVE LARGE
sROTATION-FLOORPLANE SINGLE
zN-FLOORPLANE DOUBLE
zN-FLOORPLANE ALTERNATING
sMOVEMENT-FLOORPLANE SHAKING PARALLEL
zT-WALLPLANE ARM CIRCLE SMALL SINGLE
zT-WALLPLANE ARM CIRCLE MEDIUM SINGLE
zT-WALLPLANE ARM CIRCLE SMALL DOUBLE
zT-WALLPLANE ARM CIRCLE MEDIUM DOUBLE
zT-FLOORPLANE ARM CIRCLE HITTING WALL SMALL SINGLE
zT-FLOORPLANE ARM CIRCLE HITTING WALL MEDIUM SINGLE
zT-FLOORPLANE ARM CIRCLE HITTING WALL LARGE SINGLE
zT-FLOORPLANE ARM CIRCLE HITTING WALL SMALL DOUBLE
zT-FLOORPLANE ARM CIRCLE HITTING WALL MEDIUM DOUBLE
zT-FLOORPLANE ARM CIRCLE HITTING WALL LARGE DOUBLE
zT-WALLPLANE WRIST CIRCLE FRONT SINGLE
zT-WALLPLANE WRIST CIRCLE FRONT DOUBLE
zT-FLOORPLANE WRIST CIRCLE HITTING WALL SINGLE
zT-FLOORPLANE WRIST CIRCLE HITTING WALL DOUBLE
zT-WALLPLANE FINGER CIRCLES SINGLE
zT-WALLPLANE FINGER CIRCLES DOUBLE
zT-FLOORPLANE FINGER CIRCLES HITTING WALL SINGLE
zT-FLOORPLANE FINGER CIRCLES HITTING WALL DOUBLE
sDYNAMIC ARROWHEAD SMALL
z ARROWHEAD LARGE
z FAST
z SLOW
z TENSE
z RELAXED
z SIMULTANEOUS
z SIMULTANEOUS ALTERNATING
z EVERY OTHER TIME
z GRADUAL
sHEAD
w RIM
xMOVEMENT-WALLPLANE STRAIGHT
zVEMENT-WALLPLANE TILT
zVEMENT-FLOORPLANE STRAIGHT
zVEMENT-WALLPLANE CURVE
zVEMENT-FLOORPLANE CURVE
zVEMENT CIRCLE
sFACE DIRECTION POSITION NOSE FORWARD TILTING
zRECTION POSITION NOSE UP OR DOWN
zRECTION POSITION NOSE UP OR DOWN TILTING
sEYEBROWS STRAIGHT UP
zS STRAIGHT NEUTRAL
zS STRAIGHT DOWN
sDREAMY EYEBROWS NEUTRAL DOWN
zEYEBROWS DOWN NEUTRAL
zEYEBROWS UP NEUTRAL
zEYEBROWS NEUTRAL UP
sFOREHEAD NEUTRAL
zD CONTACT
zD WRINKLED
sEYES OPEN
xSQUEEZED
xCLOSED
v BLINK SINGLE
zNK MULTIPLE
vS HALF OPEN
xWIDE OPEN
xHALF CLOSED
xWIDENING MOVEMENT
v WINK
vLASHES UP
zES DOWN
zES FLUTTERING
vGAZE-WALLPLANE STRAIGHT
z-WALLPLANE STRAIGHT DOUBLE
z-WALLPLANE STRAIGHT ALTERNATING
z-FLOORPLANE STRAIGHT
z-FLOORPLANE STRAIGHT DOUBLE
z-FLOORPLANE STRAIGHT ALTERNATING
z-WALLPLANE CURVED
z-FLOORPLANE CURVED
z-WALLPLANE CIRCLING
sCHEEKS PUFFED
zNEUTRAL
zSUCKED
sTENSE CHEEKS HIGH
zHEEKS MIDDLE
zHEEKS LOW
sEARS
sNOSE NEUTRAL
xCONTACT
xWRINKLES
yIGGLES
sAIR BLOWING OUT
wSUCKING IN
wBLOW SMALL ROTATIONS
wSUCK SMALL ROTATIONS
sBREATH INHALE
zEXHALE
sMOUTH CLOSED NEUTRAL
zLOSED FORWARD
zLOSED CONTACT
ySMILE
zMILE WRINKLED
zMILE OPEN
yFROWN
zROWN WRINKLED
zROWN OPEN
yOPEN CIRCLE
zPEN FORWARD
zPEN WRINKLED
zPEN OVAL
zPEN OVAL WRINKLED
zPEN OVAL YAWN
zPEN RECTANGLE
zPEN RECTANGLE WRINKLED
zPEN RECTANGLE YAWN
yKISS
zISS FORWARD
zISS WRINKLED
yTENSE
zENSE FORWARD
zENSE SUCKED
sLIPS PRESSED TOGETHER
v LOWER OVER UPPER
wUPPER OVER LOWER
sMOUTH CORNERS
yWRINKLES SINGLE
zRINKLES DOUBLE
sTONGUE STICKING OUT FAR
zLICKING LIPS
zTIP BETWEEN LIPS
zTIP TOUCHING INSIDE MOUTH
zINSIDE MOUTH RELAXED
zMOVES AGAINST CHEEK
zCENTRE STICKING OUT
zCENTRE INSIDE MOUTH
tEETH
x MOVEMENT
yON TONGUE
zN TONGUE MOVEMENT
zN LIPS
zN LIPS MOVEMENT
yBITE LIPS
sMOVEMENT-WALLPLANE JAW
zT-FLOORPLANE JAW
sNECK
sHAIR
sEXCITEMENT
sSHOULDER HIP SPINE
zR HIP POSITIONS
sWALLPLANE SHOULDER HIP MOVE
sFLOORPLANE SHOULDER HIP MOVE
sSHOULDER TILTING FROM WAIST
sTORSO-WALLPLANE STRAIGHT STRETCH
zALLPLANE CURVED BEND
yFLOORPLANE TWISTING
sUPPER BODY TILTING FROM HIP JOINTS
sLIMB COMBINATION
xLENGTH-1
zNGTH-2
zNGTH-3
zNGTH-4
zNGTH-5
zNGTH-6
zNGTH-7
sFINGER
sLOCATION-WALLPLANE SPACE
zN-FLOORPLANE SPACE
zN HEIGHT
zN WIDTH
zN DEPTH
zN HEAD NECK
zN TORSO
zN LIMBS DIGITS
sCOMMA
sFULL STOP
sSEMICOLON
sCOLON
sPARENTHESIS
10sFILL MODIFIER-2
zDIFIER-3
zDIFIER-4
zDIFIER-5
zDIFIER-6
2sROTATION MODIFIER-2
zN MODIFIER-3
zN MODIFIER-4
zN MODIFIER-5
zN MODIFIER-6
zN MODIFIER-7
zN MODIFIER-8
zN MODIFIER-9
zN MODIFIER-10
zN MODIFIER-11
zN MODIFIER-12
zN MODIFIER-13
zN MODIFIER-14
zN MODIFIER-15
zN MODIFIER-16
451gLATIN SMALL LETTER FENG DIGRAPH WITH TRILL
zREVERSED SCRIPT G
mLETTER SMALL CAPITAL TURNED G
mSMALL LETTER REVERSED K
mLETTER SMALL CAPITAL L WITH BELT
mSMALL LETTER LEZH WITH RETROFLEX HOOK
zTURNED Y WITH BELT
zREVERSED ENG
zTURNED R WITH LONG LEG AND RETROFLEX HOOK
zT WITH HOOK AND RETROFLEX HOOK
mLETTER RETROFLEX CLICK WITH RETROFLEX HOOK
mSMALL LETTER ESH WITH DOUBLE BAR
zESH WITH DOUBLE BAR AND CURL
zTURNED T WITH CURL
mLETTER INVERTED GLOTTAL STOP WITH CURL
tSTRETCHED C WITH CURL
uMALL CAPITAL TURNED K
mSMALL LETTER L WITH FISHHOOK
zDEZH DIGRAPH WITH PALATAL HOOK
zL WITH BELT AND PALATAL HOOK
zENG WITH PALATAL HOOK
zTURNED R WITH PALATAL HOOK
zR WITH FISHHOOK AND PALATAL HOOK
zTESH DIGRAPH WITH PALATAL HOOK
zEZH WITH PALATAL HOOK
zDEZH DIGRAPH WITH RETROFLEX HOOK
zI WITH STROKE AND RETROFLEX HOOK
zO WITH RETROFLEX HOOK
zTESH DIGRAPH WITH RETROFLEX HOOK
zC WITH RETROFLEX HOOK
zS WITH CURL
7zD WITH MID-HEIGHT LEFT HOOK
zL WITH MID-HEIGHT LEFT HOOK
zN WITH MID-HEIGHT LEFT HOOK
zR WITH MID-HEIGHT LEFT HOOK
zS WITH MID-HEIGHT LEFT HOOK
zT WITH MID-HEIGHT LEFT HOOK
d6gCOMBINING GLAGOLITIC LETTER AZU
zC LETTER BUKY
zC LETTER VEDE
zC LETTER GLAGOLI
zC LETTER DOBRO
zC LETTER YESTU
zC LETTER ZHIVETE
2zC LETTER ZEMLJA
zC LETTER IZHE
zC LETTER INITIAL IZHE
zC LETTER I
zC LETTER DJERVI
zC LETTER KAKO
zC LETTER LJUDIJE
zC LETTER MYSLITE
zC LETTER NASHI
zC LETTER ONU
zC LETTER POKOJI
zC LETTER RITSI
zC LETTER SLOVO
zC LETTER TVRIDO
zC LETTER UKU
zC LETTER FRITU
zC LETTER HERU
3zC LETTER SHTA
zC LETTER TSI
zC LETTER CHRIVI
zC LETTER SHA
zC LETTER YERU
zC LETTER YERI
zC LETTER YATI
2zC LETTER YU
zC LETTER SMALL YUS
2zC LETTER YO
zC LETTER IOTATED SMALL YUS
zC LETTER BIG YUS
zC LETTER IOTATED BIG YUS
zC LETTER FITA
6gMODIFIER LETTER CYRILLIC SMALL A
zILLIC SMALL BE
zILLIC SMALL VE
zILLIC SMALL GHE
zILLIC SMALL DE
zILLIC SMALL IE
zILLIC SMALL ZHE
zILLIC SMALL ZE
zILLIC SMALL I
zILLIC SMALL KA
zILLIC SMALL EL
zILLIC SMALL EM
zILLIC SMALL O
zILLIC SMALL PE
zILLIC SMALL ER
zILLIC SMALL ES
zILLIC SMALL TE
zILLIC SMALL U
zILLIC SMALL EF
zILLIC SMALL HA
zILLIC SMALL TSE
zILLIC SMALL CHE
zILLIC SMALL SHA
zILLIC SMALL YERU
zILLIC SMALL E
zILLIC SMALL YU
zILLIC SMALL DZZE
zILLIC SMALL SCHWA
zILLIC SMALL BYELORUSSIAN-UKRAINIAN I
zILLIC SMALL JE
zILLIC SMALL BARRED O
zILLIC SMALL STRAIGHT U
zILLIC SMALL PALOCHKA
gCYRILLIC SUBSCRIPT SMALL LETTER A
zSMALL LETTER BE
zSMALL LETTER VE
zSMALL LETTER GHE
zSMALL LETTER DE
zSMALL LETTER IE
zSMALL LETTER ZHE
zSMALL LETTER ZE
zSMALL LETTER I
zSMALL LETTER KA
zSMALL LETTER EL
zSMALL LETTER O
zSMALL LETTER PE
zSMALL LETTER ES
zSMALL LETTER U
zSMALL LETTER EF
zSMALL LETTER HA
zSMALL LETTER TSE
zSMALL LETTER CHE
zSMALL LETTER SHA
zSMALL LETTER HARD SIGN
zSMALL LETTER YERU
zSMALL LETTER GHE WITH UPTURN
zSMALL LETTER BYELORUSSIAN-UKRAINIAN I
zSMALL LETTER DZE
zSMALL LETTER DZHE
gMODIFIER LETTER CYRILLIC SMALL ES WITH DESCENDER
zILLIC SMALL YERU WITH BACK YER
zILLIC SMALL STRAIGHT U WITH STROKE
22gCOMBINING CYRILLIC SMALL LETTER BYELORUSSIAN-UKRAINIAN I
71gNYIAKENG PUACHUE HMONG LETTER MA
zONG LETTER TSA
zONG LETTER NTA
zONG LETTER TA
zONG LETTER HA
zONG LETTER NA
zONG LETTER XA
zONG LETTER NKA
zONG LETTER CA
zONG LETTER LA
zONG LETTER SA
zONG LETTER ZA
zONG LETTER NCA
zONG LETTER NTSA
zONG LETTER KA
zONG LETTER DA
zONG LETTER NYA
zONG LETTER NRA
zONG LETTER VA
zONG LETTER NTXA
zONG LETTER TXA
zONG LETTER FA
zONG LETTER RA
zONG LETTER QA
zONG LETTER YA
zONG LETTER NQA
zONG LETTER PA
zONG LETTER XYA
zONG LETTER NPA
zONG LETTER DLA
zONG LETTER NPLA
zONG LETTER HAH
zONG LETTER MLA
zONG LETTER PLA
zONG LETTER GA
zONG LETTER RRA
zONG LETTER A
zONG LETTER AA
zONG LETTER I
zONG LETTER U
zONG LETTER O
zONG LETTER OO
zONG LETTER E
zONG LETTER EE
zONG LETTER W
4zONG TONE-B
zONG TONE-M
zONG TONE-J
zONG TONE-V
zONG TONE-S
zONG TONE-G
zONG TONE-D
zONG SIGN FOR PERSON
zONG SIGN FOR THING
zONG SIGN FOR LOCATION
zONG SIGN FOR ANIMAL
zONG SIGN FOR INVERTEBRATE
zONG SIGN XW XW
zONG SYLLABLE LENGTHENER
3zONG DIGIT ZERO
zONG DIGIT ONE
zONG DIGIT TWO
zONG DIGIT THREE
zONG DIGIT FOUR
zONG DIGIT FIVE
zONG DIGIT SIX
zONG DIGIT SEVEN
zONG DIGIT EIGHT
zONG DIGIT NINE
5zONG LOGOGRAM NYAJ
zONG CIRCLED CA
141gTOTO LETTER PA
sBA
sTA
sDA
sKA
sGA
sMA
sNA
tGA
sSA
sCHA
sYA
sWA
sJA
sHA
sRA
sLA
sI
sBREATHY I
sIU
sBREATHY IU
sU
sE
sBREATHY E
sEO
sBREATHY EO
sO
sAE
sBREATHY AE
sA
lSIGN RISING TONE
12gWANCHO LETTER AA
v
uBA
uCA
uDA
uGA
uYA
uPHA
uLA
uNA
uPA
uTA
vHA
uFA
uSA
vHA
uJA
uZA
uWA
uVA
uKA
uO
uAU
uRA
uMA
uKHA
uHA
uE
uI
uNGA
uU
uLLHA
uTSA
vRA
uONG
uAANG
vNG
uING
uON
uEN
uAAN
uNYA
uUEN
uYIH
nTONE TUP
vNI
sKOI
vNI
nDIGIT ZERO
tONE
tTWO
uHREE
tFOUR
uIVE
tSIX
uEVEN
tEIGHT
tNINE
6nNGUN SIGN
1d1gNAG MUNDARI LETTER O
zOP
zOL
zOY
zONG
zA
zAJ
zAB
zANY
zAH
zI
zIS
zIDD
zIT
zIH
zU
zUC
zUD
zUK
zUR
zE
zENN
zEG
zEM
zEN
zETT
zELL
sSIGN OJOD
xMUHOR
xTOYOR
xIKIR
xSUTUH
sDIGIT ZERO
yONE
yTWO
zHREE
yFOUR
zIVE
ySIX
zEVEN
yEIGHT
yNINE
2e7gETHIOPIC SYLLABLE HHYA
zHYU
zHYI
zHYAA
zHYEE
zHYE
zHYO
2yGURAGE HHWA
yHHWI
zHWEE
zHWE
2yGURAGE MWI
zURAGE MWEE
2zURAGE QWI
zURAGE QWEE
zURAGE QWE
zURAGE BWI
zURAGE BWEE
zURAGE KWI
zURAGE KWEE
zURAGE KWE
zURAGE GWI
zURAGE GWEE
zURAGE GWE
zURAGE FWI
zURAGE FWEE
zURAGE PWI
zURAGE PWEE
2gMENDE KIKAKUI SYLLABLE M001 KI
zBLE M002 KA
zBLE M003 KU
zBLE M065 KEE
zBLE M095 KE
zBLE M076 KOO
zBLE M048 KO
zBLE M179 KUA
zBLE M004 WI
zBLE M005 WA
zBLE M006 WU
zBLE M126 WEE
zBLE M118 WE
zBLE M114 WOO
zBLE M045 WO
zBLE M194 WUI
zBLE M143 WEI
zBLE M061 WVI
zBLE M049 WVA
zBLE M139 WVE
zBLE M007 MIN
zBLE M008 MAN
zBLE M009 MUN
zBLE M059 MEN
zBLE M094 MON
zBLE M154 MUAN
zBLE M189 MUEN
zBLE M010 BI
zBLE M011 BA
zBLE M012 BU
zBLE M150 BEE
zBLE M097 BE
zBLE M103 BOO
zBLE M138 BO
zBLE M013 I
zBLE M014 A
zBLE M015 U
zBLE M163 EE
zBLE M100 E
zBLE M165 OO
zBLE M147 O
zBLE M137 EI
zBLE M131 IN
zBLE M135 IN
zBLE M195 AN
zBLE M178 EN
zBLE M019 SI
zBLE M020 SA
zBLE M021 SU
zBLE M162 SEE
zBLE M116 SE
zBLE M136 SOO
zBLE M079 SO
zBLE M196 SIA
zBLE M025 LI
zBLE M026 LA
zBLE M027 LU
zBLE M084 LEE
zBLE M073 LE
zBLE M054 LOO
zBLE M153 LO
zBLE M110 LONG LE
zBLE M016 DI
zBLE M017 DA
zBLE M018 DU
zBLE M089 DEE
zBLE M180 DOO
zBLE M181 DO
zBLE M022 TI
zBLE M023 TA
zBLE M024 TU
zBLE M091 TEE
zBLE M055 TE
zBLE M104 TOO
zBLE M069 TO
zBLE M028 JI
zBLE M029 JA
zBLE M030 JU
zBLE M157 JEE
zBLE M113 JE
zBLE M160 JOO
zBLE M063 JO
zBLE M175 LONG JO
zBLE M031 YI
zBLE M032 YA
zBLE M033 YU
zBLE M109 YEE
zBLE M080 YE
zBLE M141 YOO
zBLE M121 YO
zBLE M034 FI
zBLE M035 FA
zBLE M036 FU
zBLE M078 FEE
zBLE M075 FE
zBLE M133 FOO
zBLE M088 FO
zBLE M197 FUA
zBLE M101 FAN
zBLE M037 NIN
zBLE M038 NAN
zBLE M039 NUN
zBLE M117 NEN
zBLE M169 NON
zBLE M176 HI
zBLE M041 HA
zBLE M186 HU
zBLE M040 HEE
zBLE M096 HE
zBLE M042 HOO
zBLE M140 HO
zBLE M083 HEEI
zBLE M128 HOOU
zBLE M053 HIN
zBLE M130 HAN
zBLE M087 HUN
zBLE M052 HEN
zBLE M193 HON
zBLE M046 HUAN
zBLE M090 NGGI
zBLE M043 NGGA
zBLE M082 NGGU
zBLE M115 NGGEE
zBLE M146 NGGE
zBLE M156 NGGOO
zBLE M120 NGGO
zBLE M159 NGGAA
zBLE M127 NGGUA
zBLE M086 LONG NGGE
zBLE M106 LONG NGGOO
zBLE M183 LONG NGGO
zBLE M155 GI
zBLE M111 GA
zBLE M168 GU
zBLE M190 GEE
zBLE M166 GUEI
zBLE M167 GUAN
zBLE M184 NGEN
zBLE M057 NGON
zBLE M177 NGUAN
zBLE M068 PI
zBLE M099 PA
zBLE M050 PU
zBLE M081 PEE
zBLE M051 PE
zBLE M102 POO
zBLE M066 PO
zBLE M145 MBI
zBLE M062 MBA
zBLE M122 MBU
zBLE M047 MBEE
zBLE M188 MBEE
zBLE M072 MBE
zBLE M172 MBOO
zBLE M174 MBO
zBLE M187 MBUU
zBLE M161 LONG MBE
zBLE M105 LONG MBOO
zBLE M142 LONG MBO
zBLE M132 KPI
zBLE M092 KPA
zBLE M074 KPU
zBLE M044 KPEE
zBLE M108 KPE
zBLE M112 KPOO
zBLE M158 KPO
zBLE M124 GBI
zBLE M056 GBA
zBLE M148 GBU
zBLE M093 GBEE
zBLE M107 GBE
zBLE M071 GBOO
zBLE M070 GBO
zBLE M171 RA
zBLE M123 NDI
zBLE M129 NDA
zBLE M125 NDU
zBLE M191 NDEE
zBLE M119 NDE
zBLE M067 NDOO
zBLE M064 NDO
zBLE M152 NJA
zBLE M192 NJU
zBLE M149 NJEE
zBLE M134 NJOO
zBLE M182 VI
zBLE M185 VA
zBLE M151 VU
zBLE M173 VEE
zBLE M085 VE
zBLE M144 VOO
zBLE M077 VO
zBLE M164 NYIN
zBLE M058 NYAN
zBLE M170 NYUN
zBLE M098 NYEN
zBLE M060 NYON
3uDIGIT ONE
z TWO
z THREE
z FOUR
z FIVE
z SIX
z SEVEN
z EIGHT
z NINE
uCOMBINING NUMBER TEENS
zNING NUMBER TENS
zNING NUMBER HUNDREDS
zNING NUMBER THOUSANDS
zNING NUMBER TEN THOUSANDS
zNING NUMBER HUNDRED THOUSANDS
zNING NUMBER MILLIONS
2agADLAM CAPITAL LETTER ALIF
zR DAALI
zR LAAM
zR MIIM
zR BA
zR SINNYIIYHE
zR PE
zR BHE
zR RA
zR E
zR FA
zR I
zR O
zR DHA
zR YHE
zR WAW
zR NUN
zR KAF
zR YA
zR U
zR JIIM
zR CHI
zR HA
zR QAAF
zR GA
zR NYA
zR TU
zR NHA
zR VA
zR KHA
zR GBE
zR ZAL
zR KPO
zR SHA
mSMALL LETTER ALIF
zDAALI
zLAAM
zMIIM
zBA
zSINNYIIYHE
zPE
zBHE
zRA
zE
zFA
zI
zO
zDHA
zYHE
zWAW
zNUN
zKAF
zYA
zU
zJIIM
zCHI
zHA
zQAAF
zGA
zNYA
zTU
zNHA
zVA
zKHA
zGBE
zZAL
zKPO
zSHA
mALIF LENGTHENER
mVOWEL LENGTHENER
mGEMINATION MARK
mHAMZA
mCONSONANT MODIFIER
mGEMINATE CONSONANT MODIFIER
mNUKTA
nASALIZATION MARK
5mDIGIT ZERO
sONE
sTWO
tHREE
sFOUR
tIVE
sSIX
tEVEN
sEIGHT
sNINE
5mINITIAL EXCLAMATION MARK
uQUESTION MARK
312gINDIC SIYAQ NUMBER ONE
zTWO
zTHREE
zFOUR
zFIVE
zSIX
zSEVEN
zEIGHT
zNINE
zTEN
zTWENTY
zTHIRTY
zFORTY
zFIFTY
zSIXTY
zSEVENTY
zEIGHTY
zNINETY
zONE HUNDRED
zTWO HUNDRED
zTHREE HUNDRED
zFOUR HUNDRED
zFIVE HUNDRED
zSIX HUNDRED
zSEVEN HUNDRED
zEIGHT HUNDRED
zNINE HUNDRED
zONE THOUSAND
zTWO THOUSAND
zTHREE THOUSAND
zFOUR THOUSAND
zFIVE THOUSAND
zSIX THOUSAND
zSEVEN THOUSAND
zEIGHT THOUSAND
zNINE THOUSAND
zTEN THOUSAND
zTWENTY THOUSAND
zTHIRTY THOUSAND
zFORTY THOUSAND
zFIFTY THOUSAND
zSIXTY THOUSAND
zSEVENTY THOUSAND
zEIGHTY THOUSAND
zNINETY THOUSAND
zLAKH
zLAKHAN
sLAKH MARK
sNUMBER KAROR
zKARORAN
zPREFIXED ONE
zPREFIXED TWO
zPREFIXED THREE
zPREFIXED FOUR
zPREFIXED FIVE
zPREFIXED SIX
zPREFIXED SEVEN
zPREFIXED EIGHT
zPREFIXED NINE
sPLACEHOLDER
sFRACTION ONE QUARTER
zN ONE HALF
zN THREE QUARTERS
sRUPEE MARK
sNUMBER ALTERNATE ONE
zALTERNATE TWO
zALTERNATE TEN THOUSAND
sALTERNATE LAKH MARK
4dgOTTOMAN SIYAQ NUMBER ONE
zR TWO
zR THREE
zR FOUR
zR FIVE
zR SIX
zR SEVEN
zR EIGHT
zR NINE
zR TEN
zR TWENTY
zR THIRTY
zR FORTY
zR FIFTY
zR SIXTY
zR SEVENTY
zR EIGHTY
zR NINETY
zR ONE HUNDRED
zR TWO HUNDRED
zR THREE HUNDRED
zR FOUR HUNDRED
zR FIVE HUNDRED
zR SIX HUNDRED
zR SEVEN HUNDRED
zR EIGHT HUNDRED
zR NINE HUNDRED
zR ONE THOUSAND
zR TWO THOUSAND
zR THREE THOUSAND
zR FOUR THOUSAND
zR FIVE THOUSAND
zR SIX THOUSAND
zR SEVEN THOUSAND
zR EIGHT THOUSAND
zR NINE THOUSAND
zR TEN THOUSAND
zR TWENTY THOUSAND
zR THIRTY THOUSAND
zR FORTY THOUSAND
zR FIFTY THOUSAND
zR SIXTY THOUSAND
zR SEVENTY THOUSAND
zR EIGHTY THOUSAND
zR NINETY THOUSAND
uMARRATAN
uALTERNATE NUMBER TWO
zNATE NUMBER THREE
zNATE NUMBER FOUR
zNATE NUMBER FIVE
zNATE NUMBER SIX
zNATE NUMBER SEVEN
zNATE NUMBER EIGHT
zNATE NUMBER NINE
zNATE NUMBER TEN
zNATE NUMBER FOUR HUNDRED
zNATE NUMBER SIX HUNDRED
zNATE NUMBER TWO THOUSAND
zNATE NUMBER TEN THOUSAND
uFRACTION ONE HALF
zION ONE SIXTH
c3gARABIC MATHEMATICAL ALEF
z BEH
z JEEM
z DAL
2z WAW
z ZAIN
z HAH
z TAH
z YEH
z KAF
z LAM
z MEEM
z NOON
z SEEN
z AIN
z FEH
z SAD
z QAF
z REH
z SHEEN
z TEH
z THEH
z KHAH
z THAL
z DAD
z ZAH
z GHAIN
z DOTLESS BEH
z DOTLESS NOON
z DOTLESS FEH
z DOTLESS QAF
2z INITIAL BEH
z INITIAL JEEM
2z INITIAL HEH
3z INITIAL HAH
2z INITIAL YEH
z INITIAL KAF
z INITIAL LAM
z INITIAL MEEM
z INITIAL NOON
z INITIAL SEEN
z INITIAL AIN
z INITIAL FEH
z INITIAL SAD
z INITIAL QAF
2z INITIAL SHEEN
z INITIAL TEH
z INITIAL THEH
z INITIAL KHAH
2z INITIAL DAD
2z INITIAL GHAIN
7z TAILED JEEM
5z TAILED HAH
2z TAILED YEH
2z TAILED LAM
2z TAILED NOON
z TAILED SEEN
z TAILED AIN
2z TAILED SAD
z TAILED QAF
2z TAILED SHEEN
3z TAILED KHAH
2z TAILED DAD
2z TAILED GHAIN
2z TAILED DOTLESS NOON
2z TAILED DOTLESS QAF
2z STRETCHED BEH
z STRETCHED JEEM
2z STRETCHED HEH
3z STRETCHED HAH
z STRETCHED TAH
z STRETCHED YEH
z STRETCHED KAF
2z STRETCHED MEEM
z STRETCHED NOON
z STRETCHED SEEN
z STRETCHED AIN
z STRETCHED FEH
z STRETCHED SAD
z STRETCHED QAF
2z STRETCHED SHEEN
z STRETCHED TEH
z STRETCHED THEH
z STRETCHED KHAH
2z STRETCHED DAD
z STRETCHED ZAH
z STRETCHED GHAIN
z STRETCHED DOTLESS BEH
2z STRETCHED DOTLESS FEH
2z LOOPED ALEF
z LOOPED BEH
z LOOPED JEEM
z LOOPED DAL
z LOOPED HEH
z LOOPED WAW
z LOOPED ZAIN
z LOOPED HAH
z LOOPED TAH
z LOOPED YEH
2z LOOPED LAM
z LOOPED MEEM
z LOOPED NOON
z LOOPED SEEN
z LOOPED AIN
z LOOPED FEH
z LOOPED SAD
z LOOPED QAF
z LOOPED REH
z LOOPED SHEEN
z LOOPED TEH
z LOOPED THEH
z LOOPED KHAH
z LOOPED THAL
z LOOPED DAD
z LOOPED ZAH
z LOOPED GHAIN
6z DOUBLE-STRUCK BEH
z DOUBLE-STRUCK JEEM
z DOUBLE-STRUCK DAL
2z DOUBLE-STRUCK WAW
z DOUBLE-STRUCK ZAIN
z DOUBLE-STRUCK HAH
z DOUBLE-STRUCK TAH
z DOUBLE-STRUCK YEH
2z DOUBLE-STRUCK LAM
z DOUBLE-STRUCK MEEM
z DOUBLE-STRUCK NOON
z DOUBLE-STRUCK SEEN
z DOUBLE-STRUCK AIN
z DOUBLE-STRUCK FEH
z DOUBLE-STRUCK SAD
z DOUBLE-STRUCK QAF
z DOUBLE-STRUCK REH
z DOUBLE-STRUCK SHEEN
z DOUBLE-STRUCK TEH
z DOUBLE-STRUCK THEH
z DOUBLE-STRUCK KHAH
z DOUBLE-STRUCK THAL
z DOUBLE-STRUCK DAD
z DOUBLE-STRUCK ZAH
z DOUBLE-STRUCK GHAIN
35z OPERATOR MEEM WITH HAH WITH TATWEEL
z OPERATOR HAH WITH DAL
10fgMAHJONG TILE EAST WIND
tSOUTH WIND
tWEST WIND
tNORTH WIND
tRED DRAGON
tGREEN DRAGON
tWHITE DRAGON
tONE OF CHARACTERS
tTWO OF CHARACTERS
uHREE OF CHARACTERS
tFOUR OF CHARACTERS
uIVE OF CHARACTERS
tSIX OF CHARACTERS
uEVEN OF CHARACTERS
tEIGHT OF CHARACTERS
tNINE OF CHARACTERS
tONE OF BAMBOOS
tTWO OF BAMBOOS
uHREE OF BAMBOOS
tFOUR OF BAMBOOS
uIVE OF BAMBOOS
tSIX OF BAMBOOS
uEVEN OF BAMBOOS
tEIGHT OF BAMBOOS
tNINE OF BAMBOOS
tONE OF CIRCLES
tTWO OF CIRCLES
uHREE OF CIRCLES
tFOUR OF CIRCLES
uIVE OF CIRCLES
tSIX OF CIRCLES
uEVEN OF CIRCLES
tEIGHT OF CIRCLES
tNINE OF CIRCLES
tPLUM
tORCHID
tBAMBOO
tCHRYSANTHEMUM
tSPRING
uUMMER
tAUTUMN
tWINTER
tJOKER
tBACK
5gDOMINO TILE HORIZONTAL BACK
zTAL-00-00
zTAL-00-01
zTAL-00-02
zTAL-00-03
zTAL-00-04
zTAL-00-05
zTAL-00-06
zTAL-01-00
zTAL-01-01
zTAL-01-02
zTAL-01-03
zTAL-01-04
zTAL-01-05
zTAL-01-06
zTAL-02-00
zTAL-02-01
zTAL-02-02
zTAL-02-03
zTAL-02-04
zTAL-02-05
zTAL-02-06
zTAL-03-00
zTAL-03-01
zTAL-03-02
zTAL-03-03
zTAL-03-04
zTAL-03-05
zTAL-03-06
zTAL-04-00
zTAL-04-01
zTAL-04-02
zTAL-04-03
zTAL-04-04
zTAL-04-05
zTAL-04-06
zTAL-05-00
zTAL-05-01
zTAL-05-02
zTAL-05-03
zTAL-05-04
zTAL-05-05
zTAL-05-06
zTAL-06-00
zTAL-06-01
zTAL-06-02
zTAL-06-03
zTAL-06-04
zTAL-06-05
zTAL-06-06
sVERTICAL BACK
zL-00-00
zL-00-01
zL-00-02
zL-00-03
zL-00-04
zL-00-05
zL-00-06
zL-01-00
zL-01-01
zL-01-02
zL-01-03
zL-01-04
zL-01-05
zL-01-06
zL-02-00
zL-02-01
zL-02-02
zL-02-03
zL-02-04
zL-02-05
zL-02-06
zL-03-00
zL-03-01
zL-03-02
zL-03-03
zL-03-04
zL-03-05
zL-03-06
zL-04-00
zL-04-01
zL-04-02
zL-04-03
zL-04-04
zL-04-05
zL-04-06
zL-05-00
zL-05-01
zL-05-02
zL-05-03
zL-05-04
zL-05-05
zL-05-06
zL-06-00
zL-06-01
zL-06-02
zL-06-03
zL-06-04
zL-06-05
zL-06-06
dgPLAYING CARD BACK
tACE OF SPADES
tTWO OF SPADES
uHREE OF SPADES
tFOUR OF SPADES
uIVE OF SPADES
tSIX OF SPADES
uEVEN OF SPADES
tEIGHT OF SPADES
tNINE OF SPADES
tTEN OF SPADES
tJACK OF SPADES
tKNIGHT OF SPADES
tQUEEN OF SPADES
tKING OF SPADES
3tACE OF HEARTS
tTWO OF HEARTS
uHREE OF HEARTS
tFOUR OF HEARTS
uIVE OF HEARTS
tSIX OF HEARTS
uEVEN OF HEARTS
tEIGHT OF HEARTS
tNINE OF HEARTS
tTEN OF HEARTS
tJACK OF HEARTS
tKNIGHT OF HEARTS
tQUEEN OF HEARTS
tKING OF HEARTS
tRED JOKER
2tACE OF DIAMONDS
tTWO OF DIAMONDS
uHREE OF DIAMONDS
tFOUR OF DIAMONDS
uIVE OF DIAMONDS
tSIX OF DIAMONDS
uEVEN OF DIAMONDS
tEIGHT OF DIAMONDS
tNINE OF DIAMONDS
tTEN OF DIAMONDS
tJACK OF DIAMONDS
tKNIGHT OF DIAMONDS
tQUEEN OF DIAMONDS
tKING OF DIAMONDS
tBLACK JOKER
2tACE OF CLUBS
tTWO OF CLUBS
uHREE OF CLUBS
tFOUR OF CLUBS
uIVE OF CLUBS
tSIX OF CLUBS
uEVEN OF CLUBS
tEIGHT OF CLUBS
tNINE OF CLUBS
tTEN OF CLUBS
tJACK OF CLUBS
tKNIGHT OF CLUBS
tQUEEN OF CLUBS
tKING OF CLUBS
tWHITE JOKER
tFOOL
tTRUMP-1
z2
z3
z4
z5
z6
z7
z8
z9
z10
z11
z12
z13
z14
z15
z16
z17
z18
z19
z20
z21
bgDIGIT ZERO FULL STOP
rCOMMA
mONE COMMA
mTWO COMMA
nHREE COMMA
mFOUR COMMA
nIVE COMMA
mSIX COMMA
nEVEN COMMA
mEIGHT COMMA
mNINE COMMA
iNGBAT CIRCLED SANS-SERIF DIGIT ZERO
oNEGATIVE CIRCLED SANS-SERIF DIGIT ZERO
gCIRCLED ZERO WITH SLASH
oANTICLOCKWISE ARROW
oDOLLAR SIGN WITH OVERLAID BACKSLASH
gPARENTHESIZED LATIN CAPITAL LETTER A
z CAPITAL LETTER B
z CAPITAL LETTER C
z CAPITAL LETTER D
z CAPITAL LETTER E
z CAPITAL LETTER F
z CAPITAL LETTER G
z CAPITAL LETTER H
z CAPITAL LETTER I
z CAPITAL LETTER J
z CAPITAL LETTER K
z CAPITAL LETTER L
z CAPITAL LETTER M
z CAPITAL LETTER N
z CAPITAL LETTER O
z CAPITAL LETTER P
z CAPITAL LETTER Q
z CAPITAL LETTER R
z CAPITAL LETTER S
z CAPITAL LETTER T
z CAPITAL LETTER U
z CAPITAL LETTER V
z CAPITAL LETTER W
z CAPITAL LETTER X
z CAPITAL LETTER Y
z CAPITAL LETTER Z
gTORTOISE SHELL BRACKETED LATIN CAPITAL LETTER S
gCIRCLED ITALIC LATIN CAPITAL LETTER C
zN CAPITAL LETTER R
oCD
oWZ
hOPYLEFT SYMBOL
gSQUARED LATIN CAPITAL LETTER A
zAL LETTER B
zAL LETTER C
zAL LETTER D
zAL LETTER E
zAL LETTER F
zAL LETTER G
zAL LETTER H
zAL LETTER I
zAL LETTER J
zAL LETTER K
zAL LETTER L
zAL LETTER M
zAL LETTER N
zAL LETTER O
zAL LETTER P
zAL LETTER Q
zAL LETTER R
zAL LETTER S
zAL LETTER T
zAL LETTER U
zAL LETTER V
zAL LETTER W
zAL LETTER X
zAL LETTER Y
zAL LETTER Z
oHV
oMV
oSD
pS
oPPV
oWC
gNEGATIVE CIRCLED LATIN CAPITAL LETTER A
zTIN CAPITAL LETTER B
zTIN CAPITAL LETTER C
zTIN CAPITAL LETTER D
zTIN CAPITAL LETTER E
zTIN CAPITAL LETTER F
zTIN CAPITAL LETTER G
zTIN CAPITAL LETTER H
zTIN CAPITAL LETTER I
zTIN CAPITAL LETTER J
zTIN CAPITAL LETTER K
zTIN CAPITAL LETTER L
zTIN CAPITAL LETTER M
zTIN CAPITAL LETTER N
zTIN CAPITAL LETTER O
zTIN CAPITAL LETTER P
zTIN CAPITAL LETTER Q
zTIN CAPITAL LETTER R
zTIN CAPITAL LETTER S
zTIN CAPITAL LETTER T
zTIN CAPITAL LETTER U
zTIN CAPITAL LETTER V
zTIN CAPITAL LETTER W
zTIN CAPITAL LETTER X
zTIN CAPITAL LETTER Y
zTIN CAPITAL LETTER Z
gRAISED MC SIGN
oD SIGN
oR SIGN
gCIRCLED CC
p WITH OVERLAID BACKSLASH
oHUMAN FIGURE
gNEGATIVE SQUARED LATIN CAPITAL LETTER A
zTIN CAPITAL LETTER B
zTIN CAPITAL LETTER C
zTIN CAPITAL LETTER D
zTIN CAPITAL LETTER E
zTIN CAPITAL LETTER F
zTIN CAPITAL LETTER G
zTIN CAPITAL LETTER H
zTIN CAPITAL LETTER I
zTIN CAPITAL LETTER J
zTIN CAPITAL LETTER K
zTIN CAPITAL LETTER L
zTIN CAPITAL LETTER M
zTIN CAPITAL LETTER N
zTIN CAPITAL LETTER O
zTIN CAPITAL LETTER P
zTIN CAPITAL LETTER Q
zTIN CAPITAL LETTER R
zTIN CAPITAL LETTER S
zTIN CAPITAL LETTER T
zTIN CAPITAL LETTER U
zTIN CAPITAL LETTER V
zTIN CAPITAL LETTER W
zTIN CAPITAL LETTER X
zTIN CAPITAL LETTER Y
zTIN CAPITAL LETTER Z
gCROSSED NEGATIVE SQUARED LATIN CAPITAL LETTER P
gNEGATIVE SQUARED IC
xPA
xSA
xAB
xWC
gSQUARE DJ
mD CL
pOOL
oFREE
oID
oNEW
pG
oOK
oSOS
oUP WITH EXCLAMATION MARK
oVS
oTHREE D
oSECOND SCREEN
oTWO K
oFOUR K
oEIGHT K
oFIVE POINT ONE
oSEVEN POINT ONE
oTWENTY-TWO POINT TWO
oSIXTY P
oONE HUNDRED TWENTY P
oLATIN SMALL LETTER D
oHC
pDR
pI-RES
oLOSSLESS
oSHV
oUHD
oVOD
gMASK WORK SYMBOL
39gREGIONAL INDICATOR SYMBOL LETTER A
zSYMBOL LETTER B
zSYMBOL LETTER C
zSYMBOL LETTER D
zSYMBOL LETTER E
zSYMBOL LETTER F
zSYMBOL LETTER G
zSYMBOL LETTER H
zSYMBOL LETTER I
zSYMBOL LETTER J
zSYMBOL LETTER K
zSYMBOL LETTER L
zSYMBOL LETTER M
zSYMBOL LETTER N
zSYMBOL LETTER O
zSYMBOL LETTER P
zSYMBOL LETTER Q
zSYMBOL LETTER R
zSYMBOL LETTER S
zSYMBOL LETTER T
zSYMBOL LETTER U
zSYMBOL LETTER V
zSYMBOL LETTER W
zSYMBOL LETTER X
zSYMBOL LETTER Y
zSYMBOL LETTER Z
gSQUARE HIRAGANA HOKA
mD KATAKANA KOKO
xSA
eoCJK UNIFIED IDEOGRAPH-624B
z IDEOGRAPH-5B57
z IDEOGRAPH-53CC
oKATAKANA DE
oCJK UNIFIED IDEOGRAPH-4E8C
z IDEOGRAPH-591A
z IDEOGRAPH-89E3
z IDEOGRAPH-5929
z IDEOGRAPH-4EA4
z IDEOGRAPH-6620
z IDEOGRAPH-7121
z IDEOGRAPH-6599
z IDEOGRAPH-524D
z IDEOGRAPH-5F8C
z IDEOGRAPH-518D
z IDEOGRAPH-65B0
z IDEOGRAPH-521D
z IDEOGRAPH-7D42
z IDEOGRAPH-751F
z IDEOGRAPH-8CA9
z IDEOGRAPH-58F0
z IDEOGRAPH-5439
z IDEOGRAPH-6F14
z IDEOGRAPH-6295
z IDEOGRAPH-6355
z IDEOGRAPH-4E00
z IDEOGRAPH-4E09
z IDEOGRAPH-904A
z IDEOGRAPH-5DE6
z IDEOGRAPH-4E2D
z IDEOGRAPH-53F3
z IDEOGRAPH-6307
z IDEOGRAPH-8D70
z IDEOGRAPH-6253
z IDEOGRAPH-7981
z IDEOGRAPH-7A7A
z IDEOGRAPH-5408
z IDEOGRAPH-6E80
z IDEOGRAPH-6709
z IDEOGRAPH-6708
z IDEOGRAPH-7533
z IDEOGRAPH-5272
z IDEOGRAPH-55B6
z IDEOGRAPH-914D
5gTORTOISE SHELL BRACKETED CJK UNIFIED IDEOGRAPH-672C
zKETED CJK UNIFIED IDEOGRAPH-4E09
zKETED CJK UNIFIED IDEOGRAPH-4E8C
zKETED CJK UNIFIED IDEOGRAPH-5B89
zKETED CJK UNIFIED IDEOGRAPH-70B9
zKETED CJK UNIFIED IDEOGRAPH-6253
zKETED CJK UNIFIED IDEOGRAPH-76D7
zKETED CJK UNIFIED IDEOGRAPH-52DD
zKETED CJK UNIFIED IDEOGRAPH-6557
8gCIRCLED IDEOGRAPH ADVANTAGE
zCCEPT
fgROUNDED SYMBOL FOR FU
zLU
zSHOU
zXI
zSHUANGXI
zCAI
9bgCYCLONE
gFOGGY
gCLOSED UMBRELLA
gNIGHT WITH STARS
gSUNRISE OVER MOUNTAINS
n
gCITYSCAPE AT DUSK
gSUNSET OVER BUILDINGS
gRAINBOW
gBRIDGE AT NIGHT
gWATER WAVE
gVOLCANO
gMILKY WAY
gEARTH GLOBE EUROPE-AFRICA
sAMERICAS
tSIA-AUSTRALIA
gGLOBE WITH MERIDIANS
gNEW MOON SYMBOL
gWAXING CRESCENT MOON SYMBOL
gFIRST QUARTER MOON SYMBOL
gWAXING GIBBOUS MOON SYMBOL
gFULL MOON SYMBOL
gWANING GIBBOUS MOON SYMBOL
gLAST QUARTER MOON SYMBOL
gWANING CRESCENT MOON SYMBOL
gCRESCENT MOON
gNEW MOON WITH FACE
gFIRST QUARTER MOON WITH FACE
gLAST QUARTER MOON WITH FACE
gFULL MOON WITH FACE
gSUN WITH FACE
gGLOWING STAR
gSHOOTING STAR
gTHERMOMETER
gBLACK DROPLET
gWHITE SUN
p WITH SMALL CLOUD
qBEHIND CLOUD
zOUD WITH RAIN
gCLOUD WITH RAIN
rSNOW
rLIGHTNING
rTORNADO
gFOG
gWIND BLOWING FACE
gHOT DOG
gTACO
gBURRITO
gCHESTNUT
gSEEDLING
gEVERGREEN TREE
gDECIDUOUS TREE
gPALM TREE
gCACTUS
gHOT PEPPER
gTULIP
gCHERRY BLOSSOM
gROSE
gHIBISCUS
gSUNFLOWER
gBLOSSOM
gEAR OF MAIZE
nRICE
gHERB
gFOUR LEAF CLOVER
gMAPLE LEAF
gFALLEN LEAF
gLEAF FLUTTERING IN WIND
gMUSHROOM
gTOMATO
gAUBERGINE
gGRAPES
gMELON
gWATERMELON
gTANGERINE
gLEMON
gBANANA
gPINEAPPLE
gRED APPLE
gGREEN APPLE
gPEAR
jCH
gCHERRIES
gSTRAWBERRY
gHAMBURGER
gSLICE OF PIZZA
gMEAT ON BONE
gPOULTRY LEG
gRICE CRACKER
lBALL
gCOOKED RICE
hURRY AND RICE
gSTEAMING BOWL
hPAGHETTI
gBREAD
gFRENCH FRIES
gROASTED SWEET POTATO
gDANGO
gODEN
gSUSHI
gFRIED SHRIMP
hISH CAKE WITH SWIRL DESIGN
gSOFT ICE CREAM
hHAVED ICE
gICE CREAM
gDOUGHNUT
gCOOKIE
hHOCOLATE BAR
hANDY
gLOLLIPOP
gCUSTARD
gHONEY POT
gSHORTCAKE
gBENTO BOX
gPOT OF FOOD
gCOOKING
gFORK AND KNIFE
gTEACUP WITHOUT HANDLE
gSAKE BOTTLE AND CUP
gWINE GLASS
gCOCKTAIL GLASS
gTROPICAL DRINK
gBEER MUG
gCLINKING BEER MUGS
gBABY BOTTLE
gFORK AND KNIFE WITH PLATE
gBOTTLE WITH POPPING CORK
gPOPCORN
gRIBBON
gWRAPPED PRESENT
gBIRTHDAY CAKE
gJACK-O-LANTERN
gCHRISTMAS TREE
gFATHER CHRISTMAS
hIREWORKS
o SPARKLER
gBALLOON
gPARTY POPPER
gCONFETTI BALL
gTANABATA TREE
gCROSSED FLAGS
gPINE DECORATION
gJAPANESE DOLLS
gCARP STREAMER
gWIND CHIME
gMOON VIEWING CEREMONY
gSCHOOL SATCHEL
gGRADUATION CAP
gHEART WITH TIP ON THE LEFT
gBOUQUET OF FLOWERS
gMILITARY MEDAL
gREMINDER RIBBON
gMUSICAL KEYBOARD WITH JACKS
gSTUDIO MICROPHONE
gLEVEL SLIDER
gCONTROL KNOBS
gBEAMED ASCENDING MUSICAL NOTES
nDESCENDING MUSICAL NOTES
gFILM FRAMES
gADMISSION TICKETS
gCAROUSEL HORSE
gFERRIS WHEEL
gROLLER COASTER
gFISHING POLE AND FISH
gMICROPHONE
hOVIE CAMERA
gCINEMA
gHEADPHONE
gARTIST PALETTE
gTOP HAT
gCIRCUS TENT
gTICKET
gCLAPPER BOARD
gPERFORMING ARTS
gVIDEO GAME
gDIRECT HIT
gSLOT MACHINE
gBILLIARDS
gGAME DIE
gBOWLING
gFLOWER PLAYING CARDS
gMUSICAL NOTE
iLTIPLE MUSICAL NOTES
gSAXOPHONE
gGUITAR
gMUSICAL KEYBOARD
gTRUMPET
gVIOLIN
gMUSICAL SCORE
gRUNNING SHIRT WITH SASH
gTENNIS RACQUET AND BALL
gSKI AND SKI BOOT
gBASKETBALL AND HOOP
gCHEQUERED FLAG
gSNOWBOARDER
gRUNNER
gSURFER
hPORTS MEDAL
gTROPHY
gHORSE RACING
gAMERICAN FOOTBALL
gRUGBY FOOTBALL
gSWIMMER
gWEIGHT LIFTER
gGOLFER
gRACING MOTORCYCLE
nCAR
gCRICKET BAT AND BALL
gVOLLEYBALL
gFIELD HOCKEY STICK AND BALL
gICE HOCKEY STICK AND PUCK
gTABLE TENNIS PADDLE AND BALL
gSNOW CAPPED MOUNTAIN
gCAMPING
gBEACH WITH UMBRELLA
hUILDING CONSTRUCTION
gHOUSE BUILDINGS
gCITYSCAPE
gDERELICT HOUSE BUILDING
gCLASSICAL BUILDING
gDESERT
m ISLAND
gNATIONAL PARK
gSTADIUM
gHOUSE BUILDING
mWITH GARDEN
gOFFICE BUILDING
gJAPANESE POST OFFICE
gEUROPEAN POST OFFICE
gHOSPITAL
gBANK
gAUTOMATED TELLER MACHINE
gHOTEL
gLOVE HOTEL
gCONVENIENCE STORE
gSCHOOL
gDEPARTMENT STORE
gFACTORY
gIZAKAYA LANTERN
gJAPANESE CASTLE
gEUROPEAN CASTLE
gWHITE PENNANT
gBLACK PENNANT
gWAVING WHITE FLAG
nBLACK FLAG
gROSETTE
gBLACK ROSETTE
gLABEL
gBADMINTON RACQUET AND SHUTTLECOCK
hOW AND ARROW
gAMPHORA
gEMOJI MODIFIER FITZPATRICK TYPE-1-2
zPATRICK TYPE-3
zPATRICK TYPE-4
zPATRICK TYPE-5
zPATRICK TYPE-6
gRAT
gMOUSE
gOX
gWATER BUFFALO
gCOW
gTIGER
gLEOPARD
gRABBIT
gCAT
gDRAGON
gCROCODILE
gWHALE
gSNAIL
jKE
gHORSE
gRAM
gGOAT
gSHEEP
gMONKEY
gROOSTER
gCHICKEN
gDOG
gPIG
gBOAR
gELEPHANT
gOCTOPUS
gSPIRAL SHELL
gBUG
gANT
gHONEYBEE
gLADY BEETLE
gFISH
gTROPICAL FISH
gBLOWFISH
gTURTLE
gHATCHING CHICK
gBABY CHICK
gFRONT-FACING BABY CHICK
gBIRD
gPENGUIN
gKOALA
gPOODLE
gDROMEDARY CAMEL
gBACTRIAN CAMEL
gDOLPHIN
gMOUSE FACE
gCOW FACE
gTIGER FACE
gRABBIT FACE
gCAT FACE
gDRAGON FACE
gSPOUTING WHALE
gHORSE FACE
gMONKEY FACE
gDOG FACE
gPIG FACE
gFROG FACE
gHAMSTER FACE
gWOLF FACE
gBEAR FACE
gPANDA FACE
hIG NOSE
hAW PRINTS
gCHIPMUNK
gEYES
j
hAR
gNOSE
gMOUTH
gTONGUE
gWHITE UP POINTING BACKHAND INDEX
mDOWN POINTING BACKHAND INDEX
mLEFT POINTING BACKHAND INDEX
mRIGHT POINTING BACKHAND INDEX
gFISTED HAND SIGN
gWAVING HAND SIGN
gOK HAND SIGN
gTHUMBS UP SIGN
nDOWN SIGN
gCLAPPING HANDS SIGN
gOPEN HANDS SIGN
gCROWN
gWOMANS HAT
gEYEGLASSES
gNECKTIE
gT-SHIRT
gJEANS
gDRESS
gKIMONO
gBIKINI
gWOMANS CLOTHES
gPURSE
gHANDBAG
gPOUCH
gMANS SHOE
gATHLETIC SHOE
gHIGH-HEELED SHOE
gWOMANS SANDAL
nBOOTS
gFOOTPRINTS
gBUST IN SILHOUETTE
kS IN SILHOUETTE
hOY
gGIRL
gMAN
gWOMAN
gFAMILY
gMAN AND WOMAN HOLDING HANDS
gTWO MEN HOLDING HANDS
kWOMEN HOLDING HANDS
gPOLICE OFFICER
gWOMAN WITH BUNNY EARS
gBRIDE WITH VEIL
gPERSON WITH BLOND HAIR
gMAN WITH GUA PI MAO
pTURBAN
gOLDER MAN
mWOMAN
gBABY
gCONSTRUCTION WORKER
gPRINCESS
gJAPANESE OGRE
pGOBLIN
gGHOST
gBABY ANGEL
gEXTRATERRESTRIAL ALIEN
gALIEN MONSTER
gIMP
gSKULL
gINFORMATION DESK PERSON
gGUARDSMAN
gDANCER
gLIPSTICK
gNAIL POLISH
gFACE MASSAGE
gHAIRCUT
gBARBER POLE
gSYRINGE
gPILL
gKISS MARK
gLOVE LETTER
gRING
gGEM STONE
gKISS
gBOUQUET
gCOUPLE WITH HEART
gWEDDING
gBEATING HEART
hROKEN HEART
gTWO HEARTS
gSPARKLING HEART
gGROWING HEART
gHEART WITH ARROW
gBLUE HEART
gGREEN HEART
gYELLOW HEART
gPURPLE HEART
gHEART WITH RIBBON
gREVOLVING HEARTS
gHEART DECORATION
gDIAMOND SHAPE WITH A DOT INSIDE
gELECTRIC LIGHT BULB
gANGER SYMBOL
gBOMB
gSLEEPING SYMBOL
gCOLLISION SYMBOL
gSPLASHING SWEAT SYMBOL
gDROPLET
hASH SYMBOL
gPILE OF POO
gFLEXED BICEPS
gDIZZY SYMBOL
gSPEECH BALLOON
gTHOUGHT BALLOON
gWHITE FLOWER
gHUNDRED POINTS SYMBOL
gMONEY BAG
gCURRENCY EXCHANGE
gHEAVY DOLLAR SIGN
gCREDIT CARD
gBANKNOTE WITH YEN SIGN
uDOLLAR SIGN
uEURO SIGN
uPOUND SIGN
gMONEY WITH WINGS
gCHART WITH UPWARDS TREND AND YEN SIGN
gSEAT
gPERSONAL COMPUTER
gBRIEFCASE
gMINIDISC
gFLOPPY DISK
gOPTICAL DISC
gDVD
gFILE FOLDER
gOPEN FILE FOLDER
gPAGE WITH CURL
lFACING UP
gCALENDAR
gTEAR-OFF CALENDAR
gCARD INDEX
hHART WITH UPWARDS TREND
rDOWNWARDS TREND
gBAR CHART
gCLIPBOARD
gPUSHPIN
gROUND PUSHPIN
gPAPERCLIP
gSTRAIGHT RULER
gTRIANGULAR RULER
gBOOKMARK TABS
gLEDGER
gNOTEBOOK
o WITH DECORATIVE COVER
gCLOSED BOOK
gOPEN BOOK
gGREEN BOOK
gBLUE BOOK
gORANGE BOOK
gBOOKS
gNAME BADGE
gSCROLL
gMEMO
gTELEPHONE RECEIVER
gPAGER
gFAX MACHINE
gSATELLITE ANTENNA
gPUBLIC ADDRESS LOUDSPEAKER
gCHEERING MEGAPHONE
gOUTBOX TRAY
gINBOX TRAY
gPACKAGE
gE-MAIL SYMBOL
gINCOMING ENVELOPE
gENVELOPE WITH DOWNWARDS ARROW ABOVE
gCLOSED MAILBOX WITH LOWERED FLAG
z RAISED FLAG
gOPEN MAILBOX WITH RAISED FLAG
yLOWERED FLAG
gPOSTBOX
kAL HORN
gNEWSPAPER
gMOBILE PHONE
s WITH RIGHTWARDS ARROW AT LEFT
gVIBRATION MODE
gMOBILE PHONE OFF
gNO MOBILE PHONES
gANTENNA WITH BARS
gCAMERA
m WITH FLASH
gVIDEO CAMERA
gTELEVISION
gRADIO
gVIDEOCASSETTE
gFILM PROJECTOR
gPORTABLE STEREO
hRAYER BEADS
gTWISTED RIGHTWARDS ARROWS
gCLOCKWISE RIGHTWARDS AND LEFTWARDS OPEN CIRCLE ARROWS
zS AND LEFTWARDS OPEN CIRCLE ARROWS WITH CIRCLED ONE OVERLAY
qDOWNWARDS AND UPWARDS OPEN CIRCLE ARROWS
gANTICLOCKWISE DOWNWARDS AND UPWARDS OPEN CIRCLE ARROWS
gLOW BRIGHTNESS SYMBOL
gHIGH BRIGHTNESS SYMBOL
gSPEAKER WITH CANCELLATION STROKE
n
n WITH ONE SOUND WAVE
tTHREE SOUND WAVES
gBATTERY
gELECTRIC PLUG
gLEFT-POINTING MAGNIFYING GLASS
gRIGHT-POINTING MAGNIFYING GLASS
gLOCK WITH INK PEN
gCLOSED LOCK WITH KEY
gKEY
gLOCK
gOPEN LOCK
gBELL
k WITH CANCELLATION STROKE
hOOKMARK
gLINK SYMBOL
gRADIO BUTTON
gBACK WITH LEFTWARDS ARROW ABOVE
gEND WITH LEFTWARDS ARROW ABOVE
gON WITH EXCLAMATION MARK WITH LEFT RIGHT ARROW ABOVE
gSOON WITH RIGHTWARDS ARROW ABOVE
gTOP WITH UPWARDS ARROW ABOVE
gNO ONE UNDER EIGHTEEN SYMBOL
gKEYCAP TEN
gINPUT SYMBOL FOR LATIN CAPITAL LETTERS
zTIN SMALL LETTERS
xNUMBERS
xSYMBOLS
xLATIN LETTERS
gFIRE
gELECTRIC TORCH
gWRENCH
gHAMMER
gNUT AND BOLT
gHOCHO
gPISTOL
gMICROSCOPE
gTELESCOPE
gCRYSTAL BALL
gSIX POINTED STAR WITH MIDDLE DOT
gJAPANESE SYMBOL FOR BEGINNER
gTRIDENT EMBLEM
gBLACK SQUARE BUTTON
gWHITE SQUARE BUTTON
gLARGE RED CIRCLE
mBLUE CIRCLE
mORANGE DIAMOND
mBLUE DIAMOND
gSMALL ORANGE DIAMOND
mBLUE DIAMOND
gUP-POINTING RED TRIANGLE
gDOWN-POINTING RED TRIANGLE
gUP-POINTING SMALL RED TRIANGLE
gDOWN-POINTING SMALL RED TRIANGLE
gLOWER RIGHT SHADOWED WHITE CIRCLE
gUPPER RIGHT SHADOWED WHITE CIRCLE
gCIRCLED CROSS POMMEE
hROSS POMMEE WITH HALF-CIRCLE BELOW
s
gNOTCHED LEFT SEMICIRCLE WITH THREE DOTS
oRIGHT SEMICIRCLE WITH THREE DOTS
gSYMBOL FOR MARKS CHAPTER
gWHITE LATIN CROSS
gHEAVY LATIN CROSS
gCELTIC CROSS
gOM SYMBOL
gDOVE OF PEACE
gKAABA
gMOSQUE
gSYNAGOGUE
gMENORAH WITH NINE BRANCHES
gBOWL OF HYGIEIA
gCLOCK FACE ONE OCLOCK
rTWO OCLOCK
sHREE OCLOCK
rFOUR OCLOCK
sIVE OCLOCK
rSIX OCLOCK
sEVEN OCLOCK
rEIGHT OCLOCK
rNINE OCLOCK
rTEN OCLOCK
rELEVEN OCLOCK
rTWELVE OCLOCK
rONE-THIRTY
rTWO-THIRTY
sHREE-THIRTY
rFOUR-THIRTY
sIVE-THIRTY
rSIX-THIRTY
sEVEN-THIRTY
rEIGHT-THIRTY
rNINE-THIRTY
rTEN-THIRTY
rELEVEN-THIRTY
rTWELVE-THIRTY
gRIGHT SPEAKER
t WITH ONE SOUND WAVE
zTHREE SOUND WAVES
gBULLHORN
o WITH SOUND WAVES
gRINGING BELL
gBOOK
gCANDLE
gMANTELPIECE CLOCK
gBLACK SKULL AND CROSSBONES
gNO PIRACY
gHOLE
gMAN IN BUSINESS SUIT LEVITATING
gSLEUTH OR SPY
gDARK SUNGLASSES
gSPIDER
m WEB
gJOYSTICK
gMAN DANCING
gLEFT HAND TELEPHONE RECEIVER
gTELEPHONE RECEIVER WITH PAGE
gRIGHT HAND TELEPHONE RECEIVER
gWHITE TOUCHTONE TELEPHONE
gBLACK TOUCHTONE TELEPHONE
gTELEPHONE ON TOP OF MODEM
gCLAMSHELL MOBILE PHONE
gBACK OF ENVELOPE
gSTAMPED ENVELOPE
gENVELOPE WITH LIGHTNING
gFLYING ENVELOPE
gPEN OVER STAMPED ENVELOPE
gLINKED PAPERCLIPS
gBLACK PUSHPIN
gLOWER LEFT PENCIL
rBALLPOINT PEN
rFOUNTAIN PEN
rPAINTBRUSH
rCRAYON
hEFT WRITING HAND
gTURNED OK HAND SIGN
gRAISED HAND WITH FINGERS SPLAYED
hEVERSED RAISED HAND WITH FINGERS SPLAYED
pTHUMBS UP SIGN
wDOWN SIGN
pVICTORY HAND
pHAND WITH MIDDLE FINGER EXTENDED
hAISED HAND WITH PART BETWEEN MIDDLE AND RING FINGERS
gWHITE DOWN POINTING LEFT HAND INDEX
gSIDEWAYS WHITE LEFT POINTING INDEX
vRIGHT POINTING INDEX
pBLACK LEFT POINTING INDEX
vRIGHT POINTING INDEX
gBLACK LEFT POINTING BACKHAND INDEX
mRIGHT POINTING BACKHAND INDEX
gSIDEWAYS WHITE UP POINTING INDEX
vDOWN POINTING INDEX
pBLACK UP POINTING INDEX
vDOWN POINTING INDEX
gBLACK UP POINTING BACKHAND INDEX
mDOWN POINTING BACKHAND INDEX
mHEART
gDESKTOP COMPUTER
gKEYBOARD AND MOUSE
gTHREE NETWORKED COMPUTERS
gPRINTER
hOCKET CALCULATOR
gBLACK HARD SHELL FLOPPY DISK
gWHITE HARD SHELL FLOPPY DISK
gSOFT SHELL FLOPPY DISK
gTAPE CARTRIDGE
gWIRED KEYBOARD
gONE BUTTON MOUSE
gTWO BUTTON MOUSE
hHREE BUTTON MOUSE
hRACKBALL
gOLD PERSONAL COMPUTER
gHARD DISK
gSCREEN
gPRINTER ICON
gFAX ICON
gOPTICAL DISC ICON
gDOCUMENT WITH TEXT
y AND PICTURE
uPICTURE
gFRAME WITH PICTURE
rTILES
rAN X
gBLACK FOLDER
gFOLDER
gOPEN FOLDER
gCARD INDEX DIVIDERS
lFILE BOX
gFILE CABINET
gEMPTY NOTE
q PAGE
tD
gNOTE
k PAGE
nD
gEMPTY DOCUMENT
mPAGE
qS
gDOCUMENT
gPAGE
kS
gWASTEBASKET
gSPIRAL NOTE PAD
nCALENDAR PAD
gDESKTOP WINDOW
gMINIMIZE
hAXIMIZE
gOVERLAP
gCLOCKWISE RIGHT AND LEFT SEMICIRCLE ARROWS
hANCELLATION X
gINCREASE FONT SIZE SYMBOL
gDECREASE FONT SIZE SYMBOL
gCOMPRESSION
gOLD KEY
gROLLED-UP NEWSPAPER
gPAGE WITH CIRCLED TEXT
gSTOCK CHART
gDAGGER KNIFE
gLIPS
gSPEAKING HEAD IN SILHOUETTE
gTHREE RAYS ABOVE
rBELOW
rLEFT
rRIGHT
gLEFT SPEECH BUBBLE
gRIGHT SPEECH BUBBLE
gTWO SPEECH BUBBLES
hHREE SPEECH BUBBLES
gLEFT THOUGHT BUBBLE
gRIGHT THOUGHT BUBBLE
gLEFT ANGER BUBBLE
gRIGHT ANGER BUBBLE
gMOOD BUBBLE
gLIGHTNING MOOD BUBBLE
u
gBALLOT BOX WITH BALLOT
nSCRIPT X
nBOX WITH SCRIPT X
pLD SCRIPT X
pX WITH BOLD SCRIPT X
gLIGHT CHECK MARK
gBALLOT BOX WITH BOLD CHECK
gWORLD MAP
gMOUNT FUJI
gTOKYO TOWER
gSTATUE OF LIBERTY
hILHOUETTE OF JAPAN
gMOYAI
gGRINNING FACE
t WITH SMILING EYES
gFACE WITH TEARS OF JOY
gSMILING FACE WITH OPEN MOUTH
zPEN MOUTH AND SMILING EYES
zPEN MOUTH AND COLD SWEAT
zPEN MOUTH AND TIGHTLY-CLOSED EYES
yHALO
zORNS
gWINKING FACE
gSMILING FACE WITH SMILING EYES
gFACE SAVOURING DELICIOUS FOOD
gRELIEVED FACE
gSMILING FACE WITH HEART-SHAPED EYES
ySUNGLASSES
jRKING FACE
gNEUTRAL FACE
gEXPRESSIONLESS FACE
gUNAMUSED FACE
gFACE WITH COLD SWEAT
gPENSIVE FACE
gCONFUSED FACE
kOUNDED FACE
gKISSING FACE
gFACE THROWING A KISS
gKISSING FACE WITH SMILING EYES
yCLOSED EYES
gFACE WITH STUCK-OUT TONGUE
z TONGUE AND WINKING EYE
z TONGUE AND TIGHTLY-CLOSED EYES
gDISAPPOINTED FACE
gWORRIED FACE
gANGRY FACE
gPOUTING FACE
gCRYING FACE
gPERSEVERING FACE
gFACE WITH LOOK OF TRIUMPH
gDISAPPOINTED BUT RELIEVED FACE
gFROWNING FACE WITH OPEN MOUTH
gANGUISHED FACE
gFEARFUL FACE
gWEARY FACE
gSLEEPY FACE
gTIRED FACE
gGRIMACING FACE
gLOUDLY CRYING FACE
gFACE WITH OPEN MOUTH
gHUSHED FACE
gFACE WITH OPEN MOUTH AND COLD SWEAT
lSCREAMING IN FEAR
gASTONISHED FACE
gFLUSHED FACE
gSLEEPING FACE
gDIZZY FACE
gFACE WITHOUT MOUTH
p MEDICAL MASK
gGRINNING CAT FACE WITH SMILING EYES
gCAT FACE WITH TEARS OF JOY
gSMILING CAT FACE WITH OPEN MOUTH
zTH HEART-SHAPED EYES
gCAT FACE WITH WRY SMILE
gKISSING CAT FACE WITH CLOSED EYES
gPOUTING CAT FACE
gCRYING CAT FACE
gWEARY CAT FACE
gSLIGHTLY FROWNING FACE
pSMILING FACE
gUPSIDE-DOWN FACE
gFACE WITH ROLLING EYES
qNO GOOD GESTURE
qOK GESTURE
gPERSON BOWING DEEPLY
gSEE-NO-EVIL MONKEY
gHEAR-NO-EVIL MONKEY
gSPEAK-NO-EVIL MONKEY
gHAPPY PERSON RAISING ONE HAND
gPERSON RAISING BOTH HANDS IN CELEBRATION
nFROWNING
nWITH POUTING FACE
sFOLDED HANDS
gNORTH WEST POINTING LEAF
gSOUTH WEST POINTING LEAF
gNORTH EAST POINTING LEAF
gSOUTH EAST POINTING LEAF
gTURNED NORTH WEST POINTING LEAF
nSOUTH WEST POINTING LEAF
nNORTH EAST POINTING LEAF
nSOUTH EAST POINTING LEAF
gNORTH WEST POINTING VINE LEAF
gSOUTH WEST POINTING VINE LEAF
gNORTH EAST POINTING VINE LEAF
gSOUTH EAST POINTING VINE LEAF
gHEAVY NORTH WEST POINTING VINE LEAF
mSOUTH WEST POINTING VINE LEAF
mNORTH EAST POINTING VINE LEAF
mSOUTH EAST POINTING VINE LEAF
gNORTH WEST POINTING BUD
gSOUTH WEST POINTING BUD
gNORTH EAST POINTING BUD
gSOUTH EAST POINTING BUD
gHEAVY NORTH WEST POINTING BUD
mSOUTH WEST POINTING BUD
mNORTH EAST POINTING BUD
mSOUTH EAST POINTING BUD
hOLLOW QUILT SQUARE ORNAMENT
z ORNAMENT IN BLACK SQUARE
gSOLID QUILT SQUARE ORNAMENT
zORNAMENT IN BLACK SQUARE
gLEFTWARDS ROCKET
gUPWARDS ROCKET
gRIGHTWARDS ROCKET
gDOWNWARDS ROCKET
gSCRIPT LIGATURE ET ORNAMENT
gHEAVY SCRIPT LIGATURE ET ORNAMENT
gLIGATURE OPEN ET ORNAMENT
gHEAVY LIGATURE OPEN ET ORNAMENT
mAMPERSAND ORNAMENT
gSWASH AMPERSAND ORNAMENT
hANS-SERIF HEAVY DOUBLE TURNED COMMA QUOTATION MARK ORNAMENT
zUBLE COMMA QUOTATION MARK ORNAMENT
xLOW DOUBLE COMMA QUOTATION MARK ORNAMENT
gHEAVY INTERROBANG ORNAMENT
gSANS-SERIF INTERROBANG ORNAMENT
gHEAVY SANS-SERIF INTERROBANG ORNAMENT
gVERY HEAVY SOLIDUS
rREVERSE SOLIDUS
gCHECKER BOARD
gREVERSE CHECKER BOARD
hOCKET
gHELICOPTER
gSTEAM LOCOMOTIVE
gRAILWAY CAR
gHIGH-SPEED TRAIN
w WITH BULLET NOSE
gTRAIN
gMETRO
gLIGHT RAIL
gSTATION
gTRAM
k CAR
gBUS
gONCOMING BUS
gTROLLEYBUS
gBUS STOP
gMINIBUS
gAMBULANCE
gFIRE ENGINE
gPOLICE CAR
gONCOMING POLICE CAR
gTAXI
gONCOMING TAXI
gAUTOMOBILE
gONCOMING AUTOMOBILE
gRECREATIONAL VEHICLE
gDELIVERY TRUCK
gARTICULATED LORRY
gTRACTOR
gMONORAIL
iUNTAIN RAILWAY
gSUSPENSION RAILWAY
gMOUNTAIN CABLEWAY
gAERIAL TRAMWAY
gSHIP
gROWBOAT
gSPEEDBOAT
gHORIZONTAL TRAFFIC LIGHT
gVERTICAL TRAFFIC LIGHT
gCONSTRUCTION SIGN
gPOLICE CARS REVOLVING LIGHT
gTRIANGULAR FLAG ON POST
gDOOR
gNO ENTRY SIGN
gSMOKING SYMBOL
gNO SMOKING SYMBOL
gPUT LITTER IN ITS PLACE SYMBOL
gDO NOT LITTER SYMBOL
gPOTABLE WATER SYMBOL
gNON-POTABLE WATER SYMBOL
gBICYCLE
gNO BICYCLES
gBICYCLIST
gMOUNTAIN BICYCLIST
gPEDESTRIAN
gNO PEDESTRIANS
gCHILDREN CROSSING
gMENS SYMBOL
gWOMENS SYMBOL
gRESTROOM
gBABY SYMBOL
gTOILET
gWATER CLOSET
gSHOWER
gBATH
kTUB
gPASSPORT CONTROL
gCUSTOMS
gBAGGAGE CLAIM
gLEFT LUGGAGE
gTRIANGLE WITH ROUNDED CORNERS
gPROHIBITED SIGN
gCIRCLED INFORMATION SOURCE
gBOYS SYMBOL
gGIRLS SYMBOL
gCOUCH AND LAMP
gSLEEPING ACCOMMODATION
hHOPPING BAGS
gBELLHOP BELL
iD
gPLACE OF WORSHIP
gOCTAGONAL SIGN
gSHOPPING TROLLEY
hTUPA
gPAGODA
gHINDU TEMPLE
hUT
gELEVATOR
5gWIRELESS
gPLAYGROUND SLIDE
gWHEEL
gRING BUOY
gHAMMER AND WRENCH
gSHIELD
gOIL DRUM
gMOTORWAY
gRAILWAY TRACK
gMOTOR BOAT
gUP-POINTING MILITARY AIRPLANE
sAIRPLANE
sSMALL AIRPLANE
gSMALL AIRPLANE
gNORTHEAST-POINTING AIRPLANE
gAIRPLANE DEPARTURE
pARRIVING
4gSATELLITE
gONCOMING FIRE ENGINE
gDIESEL LOCOMOTIVE
gPASSENGER SHIP
gSCOOTER
gMOTOR SCOOTER
gCANOE
gSLED
gFLYING SAUCER
gSKATEBOARD
gAUTO RICKSHAW
gPICKUP TRUCK
gROLLER SKATE
4gALCHEMICAL SYMBOL FOR QUINTESSENCE
zOR AIR
zOR FIRE
zOR EARTH
zOR WATER
zOR AQUAFORTIS
zOR AQUA REGIA
zOR AQUA REGIA-2
zOR AQUA VITAE
zOR AQUA VITAE-2
zOR VINEGAR
zOR VINEGAR-2
zOR VINEGAR-3
zOR SULFUR
zOR PHILOSOPHERS SULFUR
zOR BLACK SULFUR
zOR MERCURY SUBLIMATE
zOR MERCURY SUBLIMATE-2
zOR MERCURY SUBLIMATE-3
zOR CINNABAR
zOR SALT
zOR NITRE
zOR VITRIOL
zOR VITRIOL-2
zOR ROCK SALT
zOR ROCK SALT-2
zOR GOLD
zOR SILVER
zOR IRON ORE
zOR IRON ORE-2
zOR CROCUS OF IRON
zOR REGULUS OF IRON
zOR COPPER ORE
zOR IRON-COPPER ORE
zOR SUBLIMATE OF COPPER
zOR CROCUS OF COPPER
zOR CROCUS OF COPPER-2
zOR COPPER ANTIMONIATE
zOR SALT OF COPPER ANTIMONIATE
zOR SUBLIMATE OF SALT OF COPPER
zOR VERDIGRIS
zOR TIN ORE
zOR LEAD ORE
zOR ANTIMONY ORE
zOR SUBLIMATE OF ANTIMONY
zOR SALT OF ANTIMONY
zOR SUBLIMATE OF SALT OF ANTIMONY
zOR VINEGAR OF ANTIMONY
zOR REGULUS OF ANTIMONY
zOR REGULUS OF ANTIMONY-2
zOR REGULUS
zOR REGULUS-2
zOR REGULUS-3
zOR REGULUS-4
zOR ALKALI
zOR ALKALI-2
zOR MARCASITE
zOR SAL-AMMONIAC
zOR ARSENIC
zOR REALGAR
zOR REALGAR-2
zOR AURIPIGMENT
zOR BISMUTH ORE
zOR TARTAR
zOR TARTAR-2
zOR QUICK LIME
zOR BORAX
zOR BORAX-2
zOR BORAX-3
zOR ALUM
zOR OIL
zOR SPIRIT
zOR TINCTURE
zOR GUM
zOR WAX
zOR POWDER
zOR CALX
zOR TUTTY
zOR CAPUT MORTUUM
zOR SCEPTER OF JOVE
zOR CADUCEUS
zOR TRIDENT
zOR STARRED TRIDENT
zOR LODESTONE
zOR SOAP
zOR URINE
zOR HORSE DUNG
zOR ASHES
zOR POT ASHES
zOR BRICK
zOR POWDERED BRICK
zOR AMALGAM
zOR STRATUM SUPER STRATUM
zOR STRATUM SUPER STRATUM-2
zOR SUBLIMATION
zOR PRECIPITATE
zOR DISTILL
zOR DISSOLVE
zOR DISSOLVE-2
zOR PURIFY
zOR PUTREFACTION
zOR CRUCIBLE
zOR CRUCIBLE-2
zOR CRUCIBLE-3
zOR CRUCIBLE-4
zOR CRUCIBLE-5
zOR ALEMBIC
zOR BATH OF MARY
zOR BATH OF VAPOURS
zOR RETORT
zOR HOUR
zOR NIGHT
zOR DAY-NIGHT
zOR MONTH
zOR HALF DRAM
zOR HALF OUNCE
gLOT OF FORTUNE
gOCCULTATION
gLUNAR ECLIPSE
5gHAUMEA
gMAKEMAKE
gGONGGONG
gQUAOAR
gORCUS
gBLACK LEFT-POINTING ISOSCELES RIGHT TRIANGLE
mUP-POINTING ISOSCELES RIGHT TRIANGLE
mRIGHT-POINTING ISOSCELES RIGHT TRIANGLE
mDOWN-POINTING ISOSCELES RIGHT TRIANGLE
mSLIGHTLY SMALL CIRCLE
gMEDIUM BOLD WHITE CIRCLE
gBOLD WHITE CIRCLE
gHEAVY WHITE CIRCLE
gVERY HEAVY WHITE CIRCLE
gEXTREMELY HEAVY WHITE CIRCLE
gWHITE CIRCLE CONTAINING BLACK SMALL CIRCLE
gROUND TARGET
gBLACK TINY SQUARE
mSLIGHTLY SMALL SQUARE
gLIGHT WHITE SQUARE
gMEDIUM WHITE SQUARE
gBOLD WHITE SQUARE
gHEAVY WHITE SQUARE
gVERY HEAVY WHITE SQUARE
gEXTREMELY HEAVY WHITE SQUARE
gWHITE SQUARE CONTAINING BLACK VERY SMALL SQUARE
zNING BLACK MEDIUM SQUARE
gSQUARE TARGET
gBLACK TINY DIAMOND
mVERY SMALL DIAMOND
mMEDIUM SMALL DIAMOND
gWHITE DIAMOND CONTAINING BLACK VERY SMALL DIAMOND
zINING BLACK MEDIUM DIAMOND
gDIAMOND TARGET
gBLACK TINY LOZENGE
mVERY SMALL LOZENGE
mMEDIUM SMALL LOZENGE
gWHITE LOZENGE CONTAINING BLACK SMALL LOZENGE
gTHIN GREEK CROSS
gLIGHT GREEK CROSS
gMEDIUM GREEK CROSS
gBOLD GREEK CROSS
gVERY BOLD GREEK CROSS
lHEAVY GREEK CROSS
gEXTREMELY HEAVY GREEK CROSS
gTHIN SALTIRE
gLIGHT SALTIRE
gMEDIUM SALTIRE
gBOLD SALTIRE
gHEAVY SALTIRE
gVERY HEAVY SALTIRE
gEXTREMELY HEAVY SALTIRE
gLIGHT FIVE SPOKED ASTERISK
gMEDIUM FIVE SPOKED ASTERISK
gBOLD FIVE SPOKED ASTERISK
gHEAVY FIVE SPOKED ASTERISK
gVERY HEAVY FIVE SPOKED ASTERISK
gEXTREMELY HEAVY FIVE SPOKED ASTERISK
gLIGHT SIX SPOKED ASTERISK
gMEDIUM SIX SPOKED ASTERISK
gBOLD SIX SPOKED ASTERISK
gHEAVY SIX SPOKED ASTERISK
gVERY HEAVY SIX SPOKED ASTERISK
gEXTREMELY HEAVY SIX SPOKED ASTERISK
gLIGHT EIGHT SPOKED ASTERISK
gMEDIUM EIGHT SPOKED ASTERISK
gBOLD EIGHT SPOKED ASTERISK
gHEAVY EIGHT SPOKED ASTERISK
gVERY HEAVY EIGHT SPOKED ASTERISK
gLIGHT THREE POINTED BLACK STAR
gMEDIUM THREE POINTED BLACK STAR
gTHREE POINTED BLACK STAR
gMEDIUM THREE POINTED PINWHEEL STAR
gLIGHT FOUR POINTED BLACK STAR
gMEDIUM FOUR POINTED BLACK STAR
gFOUR POINTED BLACK STAR
gMEDIUM FOUR POINTED PINWHEEL STAR
gREVERSE LIGHT FOUR POINTED PINWHEEL STAR
gLIGHT FIVE POINTED BLACK STAR
gHEAVY FIVE POINTED BLACK STAR
gMEDIUM SIX POINTED BLACK STAR
gHEAVY SIX POINTED BLACK STAR
gSIX POINTED PINWHEEL STAR
gMEDIUM EIGHT POINTED BLACK STAR
gHEAVY EIGHT POINTED BLACK STAR
gVERY HEAVY EIGHT POINTED BLACK STAR
gHEAVY EIGHT POINTED PINWHEEL STAR
gLIGHT TWELVE POINTED BLACK STAR
gHEAVY TWELVE POINTED BLACK STAR
zD PINWHEEL STAR
gCIRCLED TRIANGLE
gNEGATIVE CIRCLED TRIANGLE
gCIRCLED SQUARE
gNEGATIVE CIRCLED SQUARE
hINE POINTED WHITE STAR
7gLARGE ORANGE CIRCLE
mYELLOW CIRCLE
mGREEN CIRCLE
mPURPLE CIRCLE
mBROWN CIRCLE
mRED SQUARE
mBLUE SQUARE
mORANGE SQUARE
mYELLOW SQUARE
mGREEN SQUARE
mPURPLE SQUARE
mBROWN SQUARE
5gHEAVY EQUALS SIGN
10gLEFTWARDS ARROW WITH SMALL TRIANGLE ARROWHEAD
gUPWARDS ARROW WITH SMALL TRIANGLE ARROWHEAD
gRIGHTWARDS ARROW WITH SMALL TRIANGLE ARROWHEAD
gDOWNWARDS ARROW WITH SMALL TRIANGLE ARROWHEAD
gLEFTWARDS ARROW WITH MEDIUM TRIANGLE ARROWHEAD
gUPWARDS ARROW WITH MEDIUM TRIANGLE ARROWHEAD
gRIGHTWARDS ARROW WITH MEDIUM TRIANGLE ARROWHEAD
gDOWNWARDS ARROW WITH MEDIUM TRIANGLE ARROWHEAD
gLEFTWARDS ARROW WITH LARGE TRIANGLE ARROWHEAD
gUPWARDS ARROW WITH LARGE TRIANGLE ARROWHEAD
gRIGHTWARDS ARROW WITH LARGE TRIANGLE ARROWHEAD
gDOWNWARDS ARROW WITH LARGE TRIANGLE ARROWHEAD
5gLEFTWARDS ARROW WITH SMALL EQUILATERAL ARROWHEAD
gUPWARDS ARROW WITH SMALL EQUILATERAL ARROWHEAD
gRIGHTWARDS ARROW WITH SMALL EQUILATERAL ARROWHEAD
gDOWNWARDS ARROW WITH SMALL EQUILATERAL ARROWHEAD
gLEFTWARDS ARROW WITH EQUILATERAL ARROWHEAD
gUPWARDS ARROW WITH EQUILATERAL ARROWHEAD
gRIGHTWARDS ARROW WITH EQUILATERAL ARROWHEAD
gDOWNWARDS ARROW WITH EQUILATERAL ARROWHEAD
gHEAVY LEFTWARDS ARROW WITH EQUILATERAL ARROWHEAD
mUPWARDS ARROW WITH EQUILATERAL ARROWHEAD
mRIGHTWARDS ARROW WITH EQUILATERAL ARROWHEAD
mDOWNWARDS ARROW WITH EQUILATERAL ARROWHEAD
mLEFTWARDS ARROW WITH LARGE EQUILATERAL ARROWHEAD
mUPWARDS ARROW WITH LARGE EQUILATERAL ARROWHEAD
mRIGHTWARDS ARROW WITH LARGE EQUILATERAL ARROWHEAD
mDOWNWARDS ARROW WITH LARGE EQUILATERAL ARROWHEAD
gLEFTWARDS TRIANGLE-HEADED ARROW WITH NARROW SHAFT
gUPWARDS TRIANGLE-HEADED ARROW WITH NARROW SHAFT
gRIGHTWARDS TRIANGLE-HEADED ARROW WITH NARROW SHAFT
gDOWNWARDS TRIANGLE-HEADED ARROW WITH NARROW SHAFT
gLEFTWARDS TRIANGLE-HEADED ARROW WITH MEDIUM SHAFT
gUPWARDS TRIANGLE-HEADED ARROW WITH MEDIUM SHAFT
gRIGHTWARDS TRIANGLE-HEADED ARROW WITH MEDIUM SHAFT
gDOWNWARDS TRIANGLE-HEADED ARROW WITH MEDIUM SHAFT
gLEFTWARDS TRIANGLE-HEADED ARROW WITH BOLD SHAFT
gUPWARDS TRIANGLE-HEADED ARROW WITH BOLD SHAFT
gRIGHTWARDS TRIANGLE-HEADED ARROW WITH BOLD SHAFT
gDOWNWARDS TRIANGLE-HEADED ARROW WITH BOLD SHAFT
gLEFTWARDS TRIANGLE-HEADED ARROW WITH HEAVY SHAFT
gUPWARDS TRIANGLE-HEADED ARROW WITH HEAVY SHAFT
gRIGHTWARDS TRIANGLE-HEADED ARROW WITH HEAVY SHAFT
gDOWNWARDS TRIANGLE-HEADED ARROW WITH HEAVY SHAFT
gLEFTWARDS TRIANGLE-HEADED ARROW WITH VERY HEAVY SHAFT
gUPWARDS TRIANGLE-HEADED ARROW WITH VERY HEAVY SHAFT
gRIGHTWARDS TRIANGLE-HEADED ARROW WITH VERY HEAVY SHAFT
gDOWNWARDS TRIANGLE-HEADED ARROW WITH VERY HEAVY SHAFT
gLEFTWARDS FINGER-POST ARROW
gUPWARDS FINGER-POST ARROW
gRIGHTWARDS FINGER-POST ARROW
gDOWNWARDS FINGER-POST ARROW
gLEFTWARDS SQUARED ARROW
gUPWARDS SQUARED ARROW
gRIGHTWARDS SQUARED ARROW
gDOWNWARDS SQUARED ARROW
gLEFTWARDS COMPRESSED ARROW
gUPWARDS COMPRESSED ARROW
gRIGHTWARDS COMPRESSED ARROW
gDOWNWARDS COMPRESSED ARROW
gLEFTWARDS HEAVY COMPRESSED ARROW
gUPWARDS HEAVY COMPRESSED ARROW
gRIGHTWARDS HEAVY COMPRESSED ARROW
gDOWNWARDS HEAVY COMPRESSED ARROW
gLEFTWARDS HEAVY ARROW
gUPWARDS HEAVY ARROW
gRIGHTWARDS HEAVY ARROW
gDOWNWARDS HEAVY ARROW
9gLEFTWARDS SANS-SERIF ARROW
gUPWARDS SANS-SERIF ARROW
gRIGHTWARDS SANS-SERIF ARROW
gDOWNWARDS SANS-SERIF ARROW
gNORTH WEST SANS-SERIF ARROW
mEAST SANS-SERIF ARROW
gSOUTH EAST SANS-SERIF ARROW
mWEST SANS-SERIF ARROW
gLEFT RIGHT SANS-SERIF ARROW
gUP DOWN SANS-SERIF ARROW
7gWIDE-HEADED LEFTWARDS LIGHT BARB ARROW
sUPWARDS LIGHT BARB ARROW
sRIGHTWARDS LIGHT BARB ARROW
sDOWNWARDS LIGHT BARB ARROW
sNORTH WEST LIGHT BARB ARROW
yEAST LIGHT BARB ARROW
sSOUTH EAST LIGHT BARB ARROW
yWEST LIGHT BARB ARROW
sLEFTWARDS BARB ARROW
sUPWARDS BARB ARROW
sRIGHTWARDS BARB ARROW
sDOWNWARDS BARB ARROW
sNORTH WEST BARB ARROW
yEAST BARB ARROW
sSOUTH EAST BARB ARROW
yWEST BARB ARROW
sLEFTWARDS MEDIUM BARB ARROW
sUPWARDS MEDIUM BARB ARROW
sRIGHTWARDS MEDIUM BARB ARROW
sDOWNWARDS MEDIUM BARB ARROW
sNORTH WEST MEDIUM BARB ARROW
yEAST MEDIUM BARB ARROW
sSOUTH EAST MEDIUM BARB ARROW
yWEST MEDIUM BARB ARROW
sLEFTWARDS HEAVY BARB ARROW
sUPWARDS HEAVY BARB ARROW
sRIGHTWARDS HEAVY BARB ARROW
sDOWNWARDS HEAVY BARB ARROW
sNORTH WEST HEAVY BARB ARROW
yEAST HEAVY BARB ARROW
sSOUTH EAST HEAVY BARB ARROW
yWEST HEAVY BARB ARROW
sLEFTWARDS VERY HEAVY BARB ARROW
sUPWARDS VERY HEAVY BARB ARROW
sRIGHTWARDS VERY HEAVY BARB ARROW
sDOWNWARDS VERY HEAVY BARB ARROW
sNORTH WEST VERY HEAVY BARB ARROW
yEAST VERY HEAVY BARB ARROW
sSOUTH EAST VERY HEAVY BARB ARROW
yWEST VERY HEAVY BARB ARROW
9gLEFTWARDS TRIANGLE ARROWHEAD
gUPWARDS TRIANGLE ARROWHEAD
gRIGHTWARDS TRIANGLE ARROWHEAD
gDOWNWARDS TRIANGLE ARROWHEAD
gLEFTWARDS WHITE ARROW WITHIN TRIANGLE ARROWHEAD
gUPWARDS WHITE ARROW WITHIN TRIANGLE ARROWHEAD
gRIGHTWARDS WHITE ARROW WITHIN TRIANGLE ARROWHEAD
gDOWNWARDS WHITE ARROW WITHIN TRIANGLE ARROWHEAD
gLEFTWARDS ARROW WITH NOTCHED TAIL
gUPWARDS ARROW WITH NOTCHED TAIL
gRIGHTWARDS ARROW WITH NOTCHED TAIL
gDOWNWARDS ARROW WITH NOTCHED TAIL
gHEAVY ARROW SHAFT WIDTH ONE
zIDTH TWO THIRDS
zIDTH ONE HALF
zIDTH ONE THIRD
gLEFTWARDS BOTTOM-SHADED WHITE ARROW
gRIGHTWARDS BOTTOM SHADED WHITE ARROW
gLEFTWARDS TOP SHADED WHITE ARROW
gRIGHTWARDS TOP SHADED WHITE ARROW
gLEFTWARDS LEFT-SHADED WHITE ARROW
gRIGHTWARDS RIGHT-SHADED WHITE ARROW
gLEFTWARDS RIGHT-SHADED WHITE ARROW
gRIGHTWARDS LEFT-SHADED WHITE ARROW
gLEFTWARDS BACK-TILTED SHADOWED WHITE ARROW
gRIGHTWARDS BACK-TILTED SHADOWED WHITE ARROW
gLEFTWARDS FRONT-TILTED SHADOWED WHITE ARROW
gRIGHTWARDS FRONT-TILTED SHADOWED WHITE ARROW
gWHITE ARROW SHAFT WIDTH ONE
zIDTH TWO THIRDS
3gARROW POINTING UPWARDS THEN NORTH WEST
vRIGHTWARDS THEN CURVING SOUTH WEST
4fgCIRCLED CROSS FORMEE WITH FOUR DOTS
zE WITH TWO DOTS
zE
gLEFT HALF CIRCLE WITH FOUR DOTS
zTH THREE DOTS
zTH TWO DOTS
zTH DOT
w
gDOWNWARD FACING HOOK
wNOTCHED HOOK
wHOOK WITH DOT
wNOTCHED HOOK WITH DOT
gPINCHED FINGERS
gWHITE HEART
gBROWN HEART
gPINCHING HAND
gZIPPER-MOUTH FACE
gMONEY-MOUTH FACE
gFACE WITH THERMOMETER
gNERD FACE
gTHINKING FACE
gFACE WITH HEAD-BANDAGE
gROBOT FACE
gHUGGING FACE
gSIGN OF THE HORNS
gCALL ME HAND
gRAISED BACK OF HAND
gLEFT-FACING FIST
gRIGHT-FACING FIST
gHANDSHAKE
k WITH INDEX AND MIDDLE FINGERS CROSSED
gI LOVE YOU HAND SIGN
gFACE WITH COWBOY HAT
gCLOWN FACE
gNAUSEATED FACE
gROLLING ON THE FLOOR LAUGHING
gDROOLING FACE
gLYING FACE
gFACE PALM
gSNEEZING FACE
gFACE WITH ONE EYEBROW RAISED
gGRINNING FACE WITH STAR EYES
zONE LARGE AND ONE SMALL EYE
gFACE WITH FINGER COVERING CLOSED LIPS
gSERIOUS FACE WITH SYMBOLS COVERING MOUTH
hMILING FACE WITH SMILING EYES AND HAND COVERING MOUTH
gFACE WITH OPEN MOUTH VOMITING
gSHOCKED FACE WITH EXPLODING HEAD
gPREGNANT WOMAN
gBREAST-FEEDING
gPALMS UP TOGETHER
gSELFIE
gPRINCE
gMAN IN TUXEDO
hOTHER CHRISTMAS
gSHRUG
gPERSON DOING CARTWHEEL
gJUGGLING
gFENCER
gMODERN PENTATHLON
gWRESTLERS
hATER POLO
gHANDBALL
gDIVING MASK
gWILTED FLOWER
gDRUM WITH DRUMSTICKS
gCLINKING GLASSES
gTUMBLER GLASS
gSPOON
gGOAL NET
gRIFLE
gFIRST PLACE MEDAL
gSECOND PLACE MEDAL
gTHIRD PLACE MEDAL
gBOXING GLOVE
gMARTIAL ARTS UNIFORM
gCURLING STONE
gLACROSSE STICK AND BALL
gSOFTBALL
gFLYING DISC
gCROISSANT
gAVOCADO
gCUCUMBER
gBACON
gPOTATO
gCARROT
gBAGUETTE BREAD
gGREEN SALAD
gSHALLOW PAN OF FOOD
hTUFFED FLATBREAD
gEGG
gGLASS OF MILK
gPEANUTS
gKIWIFRUIT
gPANCAKES
gDUMPLING
gFORTUNE COOKIE
gTAKEOUT BOX
gCHOPSTICKS
gBOWL WITH SPOON
gCUP WITH STRAW
hOCONUT
gBROCCOLI
gPIE
hRETZEL
gCUT OF MEAT
gSANDWICH
gCANNED FOOD
gLEAFY GREEN
gMANGO
hOON CAKE
gBAGEL
gSMILING FACE WITH SMILING EYES AND THREE HEARTS
gYAWNING FACE
gSMILING FACE WITH TEAR
gFACE WITH PARTY HORN AND PARTY HAT
qUNEVEN EYES AND WAVY MOUTH
gOVERHEATED FACE
gFREEZING FACE
gNINJA
gDISGUISED FACE
gFACE HOLDING BACK TEARS
lWITH PLEADING EYES
gSARI
gLAB COAT
gGOGGLES
gHIKING BOOT
gFLAT SHOE
gCRAB
gLION FACE
gSCORPION
gTURKEY
gUNICORN FACE
gEAGLE
gDUCK
gBAT
gSHARK
gOWL
gFOX FACE
gBUTTERFLY
gDEER
gGORILLA
gLIZARD
gRHINOCEROS
gSHRIMP
hQUID
gGIRAFFE FACE
gZEBRA FACE
gHEDGEHOG
gSAUROPOD
gT-REX
gCRICKET
gKANGAROO
gLLAMA
gPEACOCK
gHIPPOPOTAMUS
gPARROT
gRACCOON
gLOBSTER
gMOSQUITO
hICROBE
gBADGER
gSWAN
gMAMMOTH
gDODO
gSLOTH
gOTTER
hRANGUTAN
gSKUNK
gFLAMINGO
gOYSTER
gBEAVER
hISON
gSEAL
gGUIDE DOG
gPROBING CANE
gEMOJI COMPONENT RED HAIR
wCURLY HAIR
wBALD
wWHITE HAIR
gBONE
gLEG
gFOOT
gTOOTH
gSUPERHERO
lVILLAIN
hAFETY VEST
gEAR WITH HEARING AID
gMOTORIZED WHEELCHAIR
hANUAL WHEELCHAIR
hECHANICAL ARM
rLEG
gCHEESE WEDGE
hUPCAKE
gSALT SHAKER
gBEVERAGE BOX
gGARLIC
gONION
gFALAFEL
gWAFFLE
gBUTTER
gMATE DRINK
gICE CUBE
gBUBBLE TEA
gTROLL
gSTANDING PERSON
gKNEELING PERSON
gDEAF PERSON
gFACE WITH MONOCLE
gADULT
gCHILD
gOLDER ADULT
gBEARDED PERSON
gPERSON WITH HEADSCARF
nIN STEAMY ROOM
nCLIMBING
nIN LOTUS POSITION
gMAGE
gFAIRY
gVAMPIRE
gMERPERSON
gELF
gGENIE
gZOMBIE
gBRAIN
gORANGE HEART
gBILLED CAP
gSCARF
gGLOVES
gCOAT
gSOCKS
gRED GIFT ENVELOPE
gFIRECRACKER
gJIGSAW PUZZLE PIECE
gTEST TUBE
gPETRI DISH
gDNA DOUBLE HELIX
gCOMPASS
gABACUS
gFIRE EXTINGUISHER
gTOOLBOX
gBRICK
gMAGNET
gLUGGAGE
hOTION BOTTLE
gSPOOL OF THREAD
gBALL OF YARN
gSAFETY PIN
gTEDDY BEAR
gBROOM
hASKET
gROLL OF PAPER
gBAR OF SOAP
gSPONGE
gRECEIPT
gNAZAR AMULET
hEUTRAL CHESS KING
uQUEEN
uROOK
uBISHOP
uKNIGHT
uPAWN
gWHITE CHESS KNIGHT ROTATED FORTY-FIVE DEGREES
gBLACK CHESS KNIGHT ROTATED FORTY-FIVE DEGREES
gNEUTRAL CHESS KNIGHT ROTATED FORTY-FIVE DEGREES
gWHITE CHESS KING ROTATED NINETY DEGREES
sQUEEN ROTATED NINETY DEGREES
sROOK ROTATED NINETY DEGREES
sBISHOP ROTATED NINETY DEGREES
sKNIGHT ROTATED NINETY DEGREES
sPAWN ROTATED NINETY DEGREES
gBLACK CHESS KING ROTATED NINETY DEGREES
sQUEEN ROTATED NINETY DEGREES
sROOK ROTATED NINETY DEGREES
sBISHOP ROTATED NINETY DEGREES
sKNIGHT ROTATED NINETY DEGREES
sPAWN ROTATED NINETY DEGREES
gNEUTRAL CHESS KING ROTATED NINETY DEGREES
uQUEEN ROTATED NINETY DEGREES
uROOK ROTATED NINETY DEGREES
uBISHOP ROTATED NINETY DEGREES
uKNIGHT ROTATED NINETY DEGREES
uPAWN ROTATED NINETY DEGREES
gWHITE CHESS KNIGHT ROTATED ONE HUNDRED THIRTY-FIVE DEGREES
gBLACK CHESS KNIGHT ROTATED ONE HUNDRED THIRTY-FIVE DEGREES
gNEUTRAL CHESS KNIGHT ROTATED ONE HUNDRED THIRTY-FIVE DEGREES
gWHITE CHESS TURNED KING
zQUEEN
zROOK
zBISHOP
zKNIGHT
zPAWN
gBLACK CHESS TURNED KING
zQUEEN
zROOK
zBISHOP
zKNIGHT
zPAWN
gNEUTRAL CHESS TURNED KING
zD QUEEN
zD ROOK
zD BISHOP
zD KNIGHT
zD PAWN
gWHITE CHESS KNIGHT ROTATED TWO HUNDRED TWENTY-FIVE DEGREES
gBLACK CHESS KNIGHT ROTATED TWO HUNDRED TWENTY-FIVE DEGREES
gNEUTRAL CHESS KNIGHT ROTATED TWO HUNDRED TWENTY-FIVE DEGREES
gWHITE CHESS KING ROTATED TWO HUNDRED SEVENTY DEGREES
sQUEEN ROTATED TWO HUNDRED SEVENTY DEGREES
sROOK ROTATED TWO HUNDRED SEVENTY DEGREES
sBISHOP ROTATED TWO HUNDRED SEVENTY DEGREES
sKNIGHT ROTATED TWO HUNDRED SEVENTY DEGREES
sPAWN ROTATED TWO HUNDRED SEVENTY DEGREES
gBLACK CHESS KING ROTATED TWO HUNDRED SEVENTY DEGREES
sQUEEN ROTATED TWO HUNDRED SEVENTY DEGREES
sROOK ROTATED TWO HUNDRED SEVENTY DEGREES
sBISHOP ROTATED TWO HUNDRED SEVENTY DEGREES
sKNIGHT ROTATED TWO HUNDRED SEVENTY DEGREES
sPAWN ROTATED TWO HUNDRED SEVENTY DEGREES
gNEUTRAL CHESS KING ROTATED TWO HUNDRED SEVENTY DEGREES
uQUEEN ROTATED TWO HUNDRED SEVENTY DEGREES
uROOK ROTATED TWO HUNDRED SEVENTY DEGREES
uBISHOP ROTATED TWO HUNDRED SEVENTY DEGREES
uKNIGHT ROTATED TWO HUNDRED SEVENTY DEGREES
uPAWN ROTATED TWO HUNDRED SEVENTY DEGREES
gWHITE CHESS KNIGHT ROTATED THREE HUNDRED FIFTEEN DEGREES
gBLACK CHESS KNIGHT ROTATED THREE HUNDRED FIFTEEN DEGREES
gNEUTRAL CHESS KNIGHT ROTATED THREE HUNDRED FIFTEEN DEGREES
gWHITE CHESS EQUIHOPPER
gBLACK CHESS EQUIHOPPER
gNEUTRAL CHESS EQUIHOPPER
gWHITE CHESS EQUIHOPPER ROTATED NINETY DEGREES
gBLACK CHESS EQUIHOPPER ROTATED NINETY DEGREES
gNEUTRAL CHESS EQUIHOPPER ROTATED NINETY DEGREES
gWHITE CHESS KNIGHT-QUEEN
zROOK
zBISHOP
gBLACK CHESS KNIGHT-QUEEN
zROOK
zBISHOP
dgXIANGQI RED GENERAL
sMANDARIN
sELEPHANT
sHORSE
sCHARIOT
tANNON
sSOLDIER
oBLACK GENERAL
uMANDARIN
uELEPHANT
uHORSE
uCHARIOT
vANNON
uSOLDIER
3gBALLET SHOES
gONE-PIECE SWIMSUIT
gBRIEFS
gSHORTS
gTHONG SANDAL
gLIGHT BLUE HEART
gGREY HEART
gPINK HEART
gDROP OF BLOOD
gADHESIVE BANDAGE
gSTETHOSCOPE
gX-RAY
gCRUTCH
4gYO-YO
gKITE
gPARACHUTE
gBOOMERANG
gMAGIC WAND
gPINATA
gNESTING DOLLS
gMARACAS
gFLUTE
8gRINGED PLANET
gCHAIR
gRAZOR
gAXE
gDIYA LAMP
gBANJO
gMILITARY HELMET
gACCORDION
gLONG DRUM
gCOIN
hARPENTRY SAW
gSCREWDRIVER
gLADDER
gHOOK
gMIRROR
gWINDOW
gPLUNGER
gSEWING NEEDLE
gKNOT
gBUCKET
gMOUSE TRAP
gTOOTHBRUSH
gHEADSTONE
gPLACARD
gROCK
gMIRROR BALL
gIDENTIFICATION CARD
gLOW BATTERY
gHAMSA
gFOLDING HAND FAN
gHAIR PICK
gKHANDA
gFLY
gWORM
gBEETLE
gCOCKROACH
gPOTTED PLANT
gWOOD
gFEATHER
gLOTUS
gCORAL
gEMPTY NEST
gNEST WITH EGGS
gHYACINTH
gJELLYFISH
gWING
2gGOOSE
gANATOMICAL HEART
gLUNGS
gPEOPLE HUGGING
hREGNANT MAN
pPERSON
hERSON WITH CROWN
9gMOOSE
gDONKEY
gBLUEBERRIES
hELL PEPPER
gOLIVE
gFLATBREAD
gTAMALE
gFONDUE
gTEAPOT
gPOURING LIQUID
gBEANS
gJAR
gGINGER ROOT
gPEA POD
5gMELTING FACE
gSALUTING FACE
gFACE WITH OPEN EYES AND HAND OVER MOUTH
qPEEKING EYE
qDIAGONAL MOUTH
gDOTTED LINE FACE
gBITING LIP
hUBBLES
gSHAKING FACE
8gHAND WITH INDEX FINGER AND THUMB CROSSED
gRIGHTWARDS HAND
gLEFTWARDS HAND
gPALM DOWN HAND
lUP HAND
gINDEX POINTING AT THE VIEWER
gHEART HANDS
gLEFTWARDS PUSHING HAND
gRIGHTWARDS PUSHING HAND
8gBLOCK SEXTANT-1
u2
u12
u3
u13
u23
u123
u4
u14
u24
u124
u34
u134
u234
u1234
u5
u15
u25
u125
u35
u235
u1235
u45
u145
u245
u1245
u345
u1345
u2345
u12345
u6
u16
u26
u126
u36
u136
u236
u1236
u46
u146
v246
u346
u1346
u2346
u12346
u56
u156
u256
u1256
u356
u1356
u2356
u12356
u456
u1456
u2456
u12456
u3456
u13456
u23456
gLOWER LEFT BLOCK DIAGONAL LOWER MIDDLE LEFT TO LOWER CENTRE
zAGONAL LOWER MIDDLE LEFT TO LOWER RIGHT
zAGONAL UPPER MIDDLE LEFT TO LOWER CENTRE
zAGONAL UPPER MIDDLE LEFT TO LOWER RIGHT
zAGONAL UPPER LEFT TO LOWER CENTRE
mRIGHT BLOCK DIAGONAL UPPER MIDDLE LEFT TO UPPER CENTRE
zIAGONAL UPPER MIDDLE LEFT TO UPPER RIGHT
zIAGONAL LOWER MIDDLE LEFT TO UPPER CENTRE
zIAGONAL LOWER MIDDLE LEFT TO UPPER RIGHT
zIAGONAL LOWER LEFT TO UPPER CENTRE
zIAGONAL LOWER MIDDLE LEFT TO UPPER MIDDLE RIGHT
zIAGONAL LOWER CENTRE TO LOWER MIDDLE RIGHT
zIAGONAL LOWER LEFT TO LOWER MIDDLE RIGHT
zIAGONAL LOWER CENTRE TO UPPER MIDDLE RIGHT
zIAGONAL LOWER LEFT TO UPPER MIDDLE RIGHT
zIAGONAL LOWER CENTRE TO UPPER RIGHT
mLEFT BLOCK DIAGONAL UPPER CENTRE TO UPPER MIDDLE RIGHT
zAGONAL UPPER LEFT TO UPPER MIDDLE RIGHT
zAGONAL UPPER CENTRE TO LOWER MIDDLE RIGHT
zAGONAL UPPER LEFT TO LOWER MIDDLE RIGHT
zAGONAL UPPER CENTRE TO LOWER RIGHT
zAGONAL UPPER MIDDLE LEFT TO LOWER MIDDLE RIGHT
gUPPER RIGHT BLOCK DIAGONAL LOWER MIDDLE LEFT TO LOWER CENTRE
zIAGONAL LOWER MIDDLE LEFT TO LOWER RIGHT
zIAGONAL UPPER MIDDLE LEFT TO LOWER CENTRE
zIAGONAL UPPER MIDDLE LEFT TO LOWER RIGHT
zIAGONAL UPPER LEFT TO LOWER CENTRE
mLEFT BLOCK DIAGONAL UPPER MIDDLE LEFT TO UPPER CENTRE
zAGONAL UPPER MIDDLE LEFT TO UPPER RIGHT
zAGONAL LOWER MIDDLE LEFT TO UPPER CENTRE
zAGONAL LOWER MIDDLE LEFT TO UPPER RIGHT
zAGONAL LOWER LEFT TO UPPER CENTRE
zAGONAL LOWER MIDDLE LEFT TO UPPER MIDDLE RIGHT
zAGONAL LOWER CENTRE TO LOWER MIDDLE RIGHT
zAGONAL LOWER LEFT TO LOWER MIDDLE RIGHT
zAGONAL LOWER CENTRE TO UPPER MIDDLE RIGHT
zAGONAL LOWER LEFT TO UPPER MIDDLE RIGHT
zAGONAL LOWER CENTRE TO UPPER RIGHT
mRIGHT BLOCK DIAGONAL UPPER CENTRE TO UPPER MIDDLE RIGHT
zIAGONAL UPPER LEFT TO UPPER MIDDLE RIGHT
zIAGONAL UPPER CENTRE TO LOWER MIDDLE RIGHT
zIAGONAL UPPER LEFT TO LOWER MIDDLE RIGHT
zIAGONAL UPPER CENTRE TO LOWER RIGHT
zIAGONAL UPPER MIDDLE LEFT TO LOWER MIDDLE RIGHT
mAND RIGHT AND LOWER TRIANGULAR THREE QUARTERS BLOCK
gLEFT AND LOWER AND RIGHT TRIANGULAR THREE QUARTERS BLOCK
gUPPER AND LEFT AND LOWER TRIANGULAR THREE QUARTERS BLOCK
gLEFT AND UPPER AND RIGHT TRIANGULAR THREE QUARTERS BLOCK
lTRIANGULAR ONE QUARTER BLOCK
gUPPER TRIANGULAR ONE QUARTER BLOCK
gRIGHT TRIANGULAR ONE QUARTER BLOCK
gLOWER TRIANGULAR ONE QUARTER BLOCK
gVERTICAL ONE EIGHTH BLOCK-2
z BLOCK-3
z BLOCK-4
z BLOCK-5
z BLOCK-6
z BLOCK-7
gHORIZONTAL ONE EIGHTH BLOCK-2
zTH BLOCK-3
zTH BLOCK-4
zTH BLOCK-5
zTH BLOCK-6
zTH BLOCK-7
gLEFT AND LOWER ONE EIGHTH BLOCK
pUPPER ONE EIGHTH BLOCK
gRIGHT AND UPPER ONE EIGHTH BLOCK
qLOWER ONE EIGHTH BLOCK
gUPPER AND LOWER ONE EIGHTH BLOCK
gHORIZONTAL ONE EIGHTH BLOCK-1358
gUPPER ONE QUARTER BLOCK
mTHREE EIGHTHS BLOCK
mFIVE EIGHTHS BLOCK
mTHREE QUARTERS BLOCK
mSEVEN EIGHTHS BLOCK
gRIGHT ONE QUARTER BLOCK
mTHREE EIGHTHS BLOCK
mFIVE EIGHTHS BLOCK
mTHREE QUARTERS BLOCK
mSEVEN EIGHTHS BLOCK
gLEFT HALF MEDIUM SHADE
gRIGHT HALF MEDIUM SHADE
gUPPER HALF MEDIUM SHADE
gLOWER HALF MEDIUM SHADE
gINVERSE MEDIUM SHADE
gUPPER HALF BLOCK AND LOWER HALF INVERSE MEDIUM SHADE
rINVERSE MEDIUM SHADE AND LOWER HALF BLOCK
2gLEFT HALF INVERSE MEDIUM SHADE AND RIGHT HALF BLOCK
gCHECKER BOARD FILL
gINVERSE CHECKER BOARD FILL
gHEAVY HORIZONTAL FILL
gUPPER LEFT TO LOWER RIGHT FILL
mRIGHT TO LOWER LEFT FILL
mAND LOWER TRIANGULAR HALF BLOCK
gLEFT AND RIGHT TRIANGULAR HALF BLOCK
gUPPER LEFT TRIANGULAR MEDIUM SHADE
mRIGHT TRIANGULAR MEDIUM SHADE
gLOWER RIGHT TRIANGULAR MEDIUM SHADE
mLEFT TRIANGULAR MEDIUM SHADE
gBOX DRAWINGS LIGHT DIAGONAL UPPER CENTRE TO MIDDLE LEFT
zDIAGONAL UPPER CENTRE TO MIDDLE RIGHT
zDIAGONAL MIDDLE LEFT TO LOWER CENTRE
zDIAGONAL MIDDLE RIGHT TO LOWER CENTRE
zDIAGONAL UPPER CENTRE TO MIDDLE LEFT TO LOWER CENTRE
zDIAGONAL UPPER CENTRE TO MIDDLE RIGHT TO LOWER CENTRE
zDIAGONAL MIDDLE LEFT TO LOWER CENTRE TO MIDDLE RIGHT
zDIAGONAL MIDDLE LEFT TO UPPER CENTRE TO MIDDLE RIGHT
zDIAGONAL UPPER CENTRE TO MIDDLE LEFT AND MIDDLE RIGHT TO LOWER CENTRE
zDIAGONAL UPPER CENTRE TO MIDDLE RIGHT AND MIDDLE LEFT TO LOWER CENTRE
zDIAGONAL UPPER CENTRE TO MIDDLE RIGHT TO LOWER CENTRE TO MIDDLE LEFT
zDIAGONAL UPPER CENTRE TO MIDDLE LEFT TO LOWER CENTRE TO MIDDLE RIGHT
zDIAGONAL MIDDLE LEFT TO UPPER CENTRE TO MIDDLE RIGHT TO LOWER CENTRE
zDIAGONAL MIDDLE RIGHT TO UPPER CENTRE TO MIDDLE LEFT TO LOWER CENTRE
zDIAGONAL DIAMOND
zHORIZONTAL WITH VERTICAL STROKE
gARROWHEAD-SHAPED POINTER
gINVERSE CHECK MARK
gLEFT HALF RUNNING MAN
gRIGHT HALF RUNNING MAN
gINVERSE DOWNWARDS ARROW WITH TIP LEFTWARDS
gLEFTWARDS ARROW AND UPPER AND LOWER ONE EIGHTH BLOCK
gRIGHTWARDS ARROW AND UPPER AND LOWER ONE EIGHTH BLOCK
gDOWNWARDS ARROW AND RIGHT ONE EIGHTH BLOCK
gUPWARDS ARROW AND RIGHT ONE EIGHTH BLOCK
gLEFT HALF FOLDER
gRIGHT HALF FOLDER
gVOIDED GREEK CROSS
gRIGHT OPEN SQUARED DOT
gNEGATIVE DIAGONAL CROSS
yMIDDLE RIGHT TO LOWER CENTRE
yDIAMOND
gWHITE HEAVY SALTIRE WITH ROUNDED CORNERS
gLEFT THIRD WHITE RIGHT POINTING INDEX
gMIDDLE THIRD WHITE RIGHT POINTING INDEX
gRIGHT THIRD WHITE RIGHT POINTING INDEX
gNEGATIVE SQUARED QUESTION MARK
gSTICK FIGURE
s WITH ARMS RAISED
tLEANING LEFT
zG RIGHT
tWITH DRESS
gWHITE UP-POINTING CHEVRON
26gSEGMENTED DIGIT ZERO
wONE
wTWO
xHREE
wFOUR
xIVE
wSIX
xEVEN
wEIGHT
wNINE
fc07gCJK COMPATIBILITY IDEOGRAPH-2F800
zDEOGRAPH-2F801
zDEOGRAPH-2F802
zDEOGRAPH-2F803
zDEOGRAPH-2F804
zDEOGRAPH-2F805
zDEOGRAPH-2F806
zDEOGRAPH-2F807
zDEOGRAPH-2F808
zDEOGRAPH-2F809
zDEOGRAPH-2F80A
zDEOGRAPH-2F80B
zDEOGRAPH-2F80C
zDEOGRAPH-2F80D
zDEOGRAPH-2F80E
zDEOGRAPH-2F80F
zDEOGRAPH-2F810
zDEOGRAPH-2F811
zDEOGRAPH-2F812
zDEOGRAPH-2F813
zDEOGRAPH-2F814
zDEOGRAPH-2F815
zDEOGRAPH-2F816
zDEOGRAPH-2F817
zDEOGRAPH-2F818
zDEOGRAPH-2F819
zDEOGRAPH-2F81A
zDEOGRAPH-2F81B
zDEOGRAPH-2F81C
zDEOGRAPH-2F81D
zDEOGRAPH-2F81E
zDEOGRAPH-2F81F
zDEOGRAPH-2F820
zDEOGRAPH-2F821
zDEOGRAPH-2F822
zDEOGRAPH-2F823
zDEOGRAPH-2F824
zDEOGRAPH-2F825
zDEOGRAPH-2F826
zDEOGRAPH-2F827
zDEOGRAPH-2F828
zDEOGRAPH-2F829
zDEOGRAPH-2F82A
zDEOGRAPH-2F82B
zDEOGRAPH-2F82C
zDEOGRAPH-2F82D
zDEOGRAPH-2F82E
zDEOGRAPH-2F82F
zDEOGRAPH-2F830
zDEOGRAPH-2F831
zDEOGRAPH-2F832
zDEOGRAPH-2F833
zDEOGRAPH-2F834
zDEOGRAPH-2F835
zDEOGRAPH-2F836
zDEOGRAPH-2F837
zDEOGRAPH-2F838
zDEOGRAPH-2F839
zDEOGRAPH-2F83A
zDEOGRAPH-2F83B
zDEOGRAPH-2F83C
zDEOGRAPH-2F83D
zDEOGRAPH-2F83E
zDEOGRAPH-2F83F
zDEOGRAPH-2F840
zDEOGRAPH-2F841
zDEOGRAPH-2F842
zDEOGRAPH-2F843
zDEOGRAPH-2F844
zDEOGRAPH-2F845
zDEOGRAPH-2F846
zDEOGRAPH-2F847
zDEOGRAPH-2F848
zDEOGRAPH-2F849
zDEOGRAPH-2F84A
zDEOGRAPH-2F84B
zDEOGRAPH-2F84C
zDEOGRAPH-2F84D
zDEOGRAPH-2F84E
zDEOGRAPH-2F84F
zDEOGRAPH-2F850
zDEOGRAPH-2F851
zDEOGRAPH-2F852
zDEOGRAPH-2F853
zDEOGRAPH-2F854
zDEOGRAPH-2F855
zDEOGRAPH-2F856
zDEOGRAPH-2F857
zDEOGRAPH-2F858
zDEOGRAPH-2F859
zDEOGRAPH-2F85A
zDEOGRAPH-2F85B
zDEOGRAPH-2F85C
zDEOGRAPH-2F85D
zDEOGRAPH-2F85E
zDEOGRAPH-2F85F
zDEOGRAPH-2F860
zDEOGRAPH-2F861
zDEOGRAPH-2F862
zDEOGRAPH-2F863
zDEOGRAPH-2F864
zDEOGRAPH-2F865
zDEOGRAPH-2F866
zDEOGRAPH-2F867
zDEOGRAPH-2F868
zDEOGRAPH-2F869
zDEOGRAPH-2F86A
zDEOGRAPH-2F86B
zDEOGRAPH-2F86C
zDEOGRAPH-2F86D
zDEOGRAPH-2F86E
zDEOGRAPH-2F86F
zDEOGRAPH-2F870
zDEOGRAPH-2F871
zDEOGRAPH-2F872
zDEOGRAPH-2F873
zDEOGRAPH-2F874
zDEOGRAPH-2F875
zDEOGRAPH-2F876
zDEOGRAPH-2F877
zDEOGRAPH-2F878
zDEOGRAPH-2F879
zDEOGRAPH-2F87A
zDEOGRAPH-2F87B
zDEOGRAPH-2F87C
zDEOGRAPH-2F87D
zDEOGRAPH-2F87E
zDEOGRAPH-2F87F
zDEOGRAPH-2F880
zDEOGRAPH-2F881
zDEOGRAPH-2F882
zDEOGRAPH-2F883
zDEOGRAPH-2F884
zDEOGRAPH-2F885
zDEOGRAPH-2F886
zDEOGRAPH-2F887
zDEOGRAPH-2F888
zDEOGRAPH-2F889
zDEOGRAPH-2F88A
zDEOGRAPH-2F88B
zDEOGRAPH-2F88C
zDEOGRAPH-2F88D
zDEOGRAPH-2F88E
zDEOGRAPH-2F88F
zDEOGRAPH-2F890
zDEOGRAPH-2F891
zDEOGRAPH-2F892
zDEOGRAPH-2F893
zDEOGRAPH-2F894
zDEOGRAPH-2F895
zDEOGRAPH-2F896
zDEOGRAPH-2F897
zDEOGRAPH-2F898
zDEOGRAPH-2F899
zDEOGRAPH-2F89A
zDEOGRAPH-2F89B
zDEOGRAPH-2F89C
zDEOGRAPH-2F89D
zDEOGRAPH-2F89E
zDEOGRAPH-2F89F
zDEOGRAPH-2F8A0
zDEOGRAPH-2F8A1
zDEOGRAPH-2F8A2
zDEOGRAPH-2F8A3
zDEOGRAPH-2F8A4
zDEOGRAPH-2F8A5
zDEOGRAPH-2F8A6
zDEOGRAPH-2F8A7
zDEOGRAPH-2F8A8
zDEOGRAPH-2F8A9
zDEOGRAPH-2F8AA
zDEOGRAPH-2F8AB
zDEOGRAPH-2F8AC
zDEOGRAPH-2F8AD
zDEOGRAPH-2F8AE
zDEOGRAPH-2F8AF
zDEOGRAPH-2F8B0
zDEOGRAPH-2F8B1
zDEOGRAPH-2F8B2
zDEOGRAPH-2F8B3
zDEOGRAPH-2F8B4
zDEOGRAPH-2F8B5
zDEOGRAPH-2F8B6
zDEOGRAPH-2F8B7
zDEOGRAPH-2F8B8
zDEOGRAPH-2F8B9
zDEOGRAPH-2F8BA
zDEOGRAPH-2F8BB
zDEOGRAPH-2F8BC
zDEOGRAPH-2F8BD
zDEOGRAPH-2F8BE
zDEOGRAPH-2F8BF
zDEOGRAPH-2F8C0
zDEOGRAPH-2F8C1
zDEOGRAPH-2F8C2
zDEOGRAPH-2F8C3
zDEOGRAPH-2F8C4
zDEOGRAPH-2F8C5
zDEOGRAPH-2F8C6
zDEOGRAPH-2F8C7
zDEOGRAPH-2F8C8
zDEOGRAPH-2F8C9
zDEOGRAPH-2F8CA
zDEOGRAPH-2F8CB
zDEOGRAPH-2F8CC
zDEOGRAPH-2F8CD
zDEOGRAPH-2F8CE
zDEOGRAPH-2F8CF
zDEOGRAPH-2F8D0
zDEOGRAPH-2F8D1
zDEOGRAPH-2F8D2
zDEOGRAPH-2F8D3
zDEOGRAPH-2F8D4
zDEOGRAPH-2F8D5
zDEOGRAPH-2F8D6
zDEOGRAPH-2F8D7
zDEOGRAPH-2F8D8
zDEOGRAPH-2F8D9
zDEOGRAPH-2F8DA
zDEOGRAPH-2F8DB
zDEOGRAPH-2F8DC
zDEOGRAPH-2F8DD
zDEOGRAPH-2F8DE
zDEOGRAPH-2F8DF
zDEOGRAPH-2F8E0
zDEOGRAPH-2F8E1
zDEOGRAPH-2F8E2
zDEOGRAPH-2F8E3
zDEOGRAPH-2F8E4
zDEOGRAPH-2F8E5
zDEOGRAPH-2F8E6
zDEOGRAPH-2F8E7
zDEOGRAPH-2F8E8
zDEOGRAPH-2F8E9
zDEOGRAPH-2F8EA
zDEOGRAPH-2F8EB
zDEOGRAPH-2F8EC
zDEOGRAPH-2F8ED
zDEOGRAPH-2F8EE
zDEOGRAPH-2F8EF
zDEOGRAPH-2F8F0
zDEOGRAPH-2F8F1
zDEOGRAPH-2F8F2
zDEOGRAPH-2F8F3
zDEOGRAPH-2F8F4
zDEOGRAPH-2F8F5
zDEOGRAPH-2F8F6
zDEOGRAPH-2F8F7
zDEOGRAPH-2F8F8
zDEOGRAPH-2F8F9
zDEOGRAPH-2F8FA
zDEOGRAPH-2F8FB
zDEOGRAPH-2F8FC
zDEOGRAPH-2F8FD
zDEOGRAPH-2F8FE
zDEOGRAPH-2F8FF
zDEOGRAPH-2F900
zDEOGRAPH-2F901
zDEOGRAPH-2F902
zDEOGRAPH-2F903
zDEOGRAPH-2F904
zDEOGRAPH-2F905
zDEOGRAPH-2F906
zDEOGRAPH-2F907
zDEOGRAPH-2F908
zDEOGRAPH-2F909
zDEOGRAPH-2F90A
zDEOGRAPH-2F90B
zDEOGRAPH-2F90C
zDEOGRAPH-2F90D
zDEOGRAPH-2F90E
zDEOGRAPH-2F90F
zDEOGRAPH-2F910
zDEOGRAPH-2F911
zDEOGRAPH-2F912
zDEOGRAPH-2F913
zDEOGRAPH-2F914
zDEOGRAPH-2F915
zDEOGRAPH-2F916
zDEOGRAPH-2F917
zDEOGRAPH-2F918
zDEOGRAPH-2F919
zDEOGRAPH-2F91A
zDEOGRAPH-2F91B
zDEOGRAPH-2F91C
zDEOGRAPH-2F91D
zDEOGRAPH-2F91E
zDEOGRAPH-2F91F
zDEOGRAPH-2F920
zDEOGRAPH-2F921
zDEOGRAPH-2F922
zDEOGRAPH-2F923
zDEOGRAPH-2F924
zDEOGRAPH-2F925
zDEOGRAPH-2F926
zDEOGRAPH-2F927
zDEOGRAPH-2F928
zDEOGRAPH-2F929
zDEOGRAPH-2F92A
zDEOGRAPH-2F92B
zDEOGRAPH-2F92C
zDEOGRAPH-2F92D
zDEOGRAPH-2F92E
zDEOGRAPH-2F92F
zDEOGRAPH-2F930
zDEOGRAPH-2F931
zDEOGRAPH-2F932
zDEOGRAPH-2F933
zDEOGRAPH-2F934
zDEOGRAPH-2F935
zDEOGRAPH-2F936
zDEOGRAPH-2F937
zDEOGRAPH-2F938
zDEOGRAPH-2F939
zDEOGRAPH-2F93A
zDEOGRAPH-2F93B
zDEOGRAPH-2F93C
zDEOGRAPH-2F93D
zDEOGRAPH-2F93E
zDEOGRAPH-2F93F
zDEOGRAPH-2F940
zDEOGRAPH-2F941
zDEOGRAPH-2F942
zDEOGRAPH-2F943
zDEOGRAPH-2F944
zDEOGRAPH-2F945
zDEOGRAPH-2F946
zDEOGRAPH-2F947
zDEOGRAPH-2F948
zDEOGRAPH-2F949
zDEOGRAPH-2F94A
zDEOGRAPH-2F94B
zDEOGRAPH-2F94C
zDEOGRAPH-2F94D
zDEOGRAPH-2F94E
zDEOGRAPH-2F94F
zDEOGRAPH-2F950
zDEOGRAPH-2F951
zDEOGRAPH-2F952
zDEOGRAPH-2F953
zDEOGRAPH-2F954
zDEOGRAPH-2F955
zDEOGRAPH-2F956
zDEOGRAPH-2F957
zDEOGRAPH-2F958
zDEOGRAPH-2F959
zDEOGRAPH-2F95A
zDEOGRAPH-2F95B
zDEOGRAPH-2F95C
zDEOGRAPH-2F95D
zDEOGRAPH-2F95E
zDEOGRAPH-2F95F
zDEOGRAPH-2F960
zDEOGRAPH-2F961
zDEOGRAPH-2F962
zDEOGRAPH-2F963
zDEOGRAPH-2F964
zDEOGRAPH-2F965
zDEOGRAPH-2F966
zDEOGRAPH-2F967
zDEOGRAPH-2F968
zDEOGRAPH-2F969
zDEOGRAPH-2F96A
zDEOGRAPH-2F96B
zDEOGRAPH-2F96C
zDEOGRAPH-2F96D
zDEOGRAPH-2F96E
zDEOGRAPH-2F96F
zDEOGRAPH-2F970
zDEOGRAPH-2F971
zDEOGRAPH-2F972
zDEOGRAPH-2F973
zDEOGRAPH-2F974
zDEOGRAPH-2F975
zDEOGRAPH-2F976
zDEOGRAPH-2F977
zDEOGRAPH-2F978
zDEOGRAPH-2F979
zDEOGRAPH-2F97A
zDEOGRAPH-2F97B
zDEOGRAPH-2F97C
zDEOGRAPH-2F97D
zDEOGRAPH-2F97E
zDEOGRAPH-2F97F
zDEOGRAPH-2F980
zDEOGRAPH-2F981
zDEOGRAPH-2F982
zDEOGRAPH-2F983
zDEOGRAPH-2F984
zDEOGRAPH-2F985
zDEOGRAPH-2F986
zDEOGRAPH-2F987
zDEOGRAPH-2F988
zDEOGRAPH-2F989
zDEOGRAPH-2F98A
zDEOGRAPH-2F98B
zDEOGRAPH-2F98C
zDEOGRAPH-2F98D
zDEOGRAPH-2F98E
zDEOGRAPH-2F98F
zDEOGRAPH-2F990
zDEOGRAPH-2F991
zDEOGRAPH-2F992
zDEOGRAPH-2F993
zDEOGRAPH-2F994
zDEOGRAPH-2F995
zDEOGRAPH-2F996
zDEOGRAPH-2F997
zDEOGRAPH-2F998
zDEOGRAPH-2F999
zDEOGRAPH-2F99A
zDEOGRAPH-2F99B
zDEOGRAPH-2F99C
zDEOGRAPH-2F99D
zDEOGRAPH-2F99E
zDEOGRAPH-2F99F
zDEOGRAPH-2F9A0
zDEOGRAPH-2F9A1
zDEOGRAPH-2F9A2
zDEOGRAPH-2F9A3
zDEOGRAPH-2F9A4
zDEOGRAPH-2F9A5
zDEOGRAPH-2F9A6
zDEOGRAPH-2F9A7
zDEOGRAPH-2F9A8
zDEOGRAPH-2F9A9
zDEOGRAPH-2F9AA
zDEOGRAPH-2F9AB
zDEOGRAPH-2F9AC
zDEOGRAPH-2F9AD
zDEOGRAPH-2F9AE
zDEOGRAPH-2F9AF
zDEOGRAPH-2F9B0
zDEOGRAPH-2F9B1
zDEOGRAPH-2F9B2
zDEOGRAPH-2F9B3
zDEOGRAPH-2F9B4
zDEOGRAPH-2F9B5
zDEOGRAPH-2F9B6
zDEOGRAPH-2F9B7
zDEOGRAPH-2F9B8
zDEOGRAPH-2F9B9
zDEOGRAPH-2F9BA
zDEOGRAPH-2F9BB
zDEOGRAPH-2F9BC
zDEOGRAPH-2F9BD
zDEOGRAPH-2F9BE
zDEOGRAPH-2F9BF
zDEOGRAPH-2F9C0
zDEOGRAPH-2F9C1
zDEOGRAPH-2F9C2
zDEOGRAPH-2F9C3
zDEOGRAPH-2F9C4
zDEOGRAPH-2F9C5
zDEOGRAPH-2F9C6
zDEOGRAPH-2F9C7
zDEOGRAPH-2F9C8
zDEOGRAPH-2F9C9
zDEOGRAPH-2F9CA
zDEOGRAPH-2F9CB
zDEOGRAPH-2F9CC
zDEOGRAPH-2F9CD
zDEOGRAPH-2F9CE
zDEOGRAPH-2F9CF
zDEOGRAPH-2F9D0
zDEOGRAPH-2F9D1
zDEOGRAPH-2F9D2
zDEOGRAPH-2F9D3
zDEOGRAPH-2F9D4
zDEOGRAPH-2F9D5
zDEOGRAPH-2F9D6
zDEOGRAPH-2F9D7
zDEOGRAPH-2F9D8
zDEOGRAPH-2F9D9
zDEOGRAPH-2F9DA
zDEOGRAPH-2F9DB
zDEOGRAPH-2F9DC
zDEOGRAPH-2F9DD
zDEOGRAPH-2F9DE
zDEOGRAPH-2F9DF
zDEOGRAPH-2F9E0
zDEOGRAPH-2F9E1
zDEOGRAPH-2F9E2
zDEOGRAPH-2F9E3
zDEOGRAPH-2F9E4
zDEOGRAPH-2F9E5
zDEOGRAPH-2F9E6
zDEOGRAPH-2F9E7
zDEOGRAPH-2F9E8
zDEOGRAPH-2F9E9
zDEOGRAPH-2F9EA
zDEOGRAPH-2F9EB
zDEOGRAPH-2F9EC
zDEOGRAPH-2F9ED
zDEOGRAPH-2F9EE
zDEOGRAPH-2F9EF
zDEOGRAPH-2F9F0
zDEOGRAPH-2F9F1
zDEOGRAPH-2F9F2
zDEOGRAPH-2F9F3
zDEOGRAPH-2F9F4
zDEOGRAPH-2F9F5
zDEOGRAPH-2F9F6
zDEOGRAPH-2F9F7
zDEOGRAPH-2F9F8
zDEOGRAPH-2F9F9
zDEOGRAPH-2F9FA
zDEOGRAPH-2F9FB
zDEOGRAPH-2F9FC
zDEOGRAPH-2F9FD
zDEOGRAPH-2F9FE
zDEOGRAPH-2F9FF
zDEOGRAPH-2FA00
zDEOGRAPH-2FA01
zDEOGRAPH-2FA02
zDEOGRAPH-2FA03
zDEOGRAPH-2FA04
zDEOGRAPH-2FA05
zDEOGRAPH-2FA06
zDEOGRAPH-2FA07
zDEOGRAPH-2FA08
zDEOGRAPH-2FA09
zDEOGRAPH-2FA0A
zDEOGRAPH-2FA0B
zDEOGRAPH-2FA0C
zDEOGRAPH-2FA0D
zDEOGRAPH-2FA0E
zDEOGRAPH-2FA0F
zDEOGRAPH-2FA10
zDEOGRAPH-2FA11
zDEOGRAPH-2FA12
zDEOGRAPH-2FA13
zDEOGRAPH-2FA14
zDEOGRAPH-2FA15
zDEOGRAPH-2FA16
zDEOGRAPH-2FA17
zDEOGRAPH-2FA18
zDEOGRAPH-2FA19
zDEOGRAPH-2FA1A
zDEOGRAPH-2FA1B
zDEOGRAPH-2FA1C
zDEOGRAPH-2FA1D
b05e4gLANGUAGE TAG
1fgTAG SPACE
kEXCLAMATION MARK
kQUOTATION MARK
kNUMBER SIGN
kDOLLAR SIGN
kPERCENT SIGN
kAMPERSAND
lPOSTROPHE
kLEFT PARENTHESIS
kRIGHT PARENTHESIS
kASTERISK
kPLUS SIGN
kCOMMA
kHYPHEN-MINUS
kFULL STOP
kSOLIDUS
kDIGIT ZERO
qONE
qTWO
rHREE
qFOUR
rIVE
qSIX
rEVEN
qEIGHT
qNINE
kCOLON
kSEMICOLON
kLESS-THAN SIGN
kEQUALS SIGN
kGREATER-THAN SIGN
kQUESTION MARK
kCOMMERCIAL AT
kLATIN CAPITAL LETTER A
zETTER B
zETTER C
zETTER D
zETTER E
zETTER F
zETTER G
zETTER H
zETTER I
zETTER J
zETTER K
zETTER L
zETTER M
zETTER N
zETTER O
zETTER P
zETTER Q
zETTER R
zETTER S
zETTER T
zETTER U
zETTER V
zETTER W
zETTER X
zETTER Y
zETTER Z
lEFT SQUARE BRACKET
kREVERSE SOLIDUS
lIGHT SQUARE BRACKET
kCIRCUMFLEX ACCENT
kLOW LINE
kGRAVE ACCENT
kLATIN SMALL LETTER A
zTER B
zTER C
zTER D
zTER E
zTER F
zTER G
zTER H
zTER I
zTER J
zTER K
zTER L
zTER M
zTER N
zTER O
zTER P
zTER Q
zTER R
zTER S
zTER T
zTER U
zTER V
zTER W
zTER X
zTER Y
zTER Z
lEFT CURLY BRACKET
kVERTICAL LINE
kRIGHT CURLY BRACKET
kTILDE
gCANCEL TAG
81gVARIATION SELECTOR-17
0hS17
hARIATION SELECTOR-18
0hS18
hARIATION SELECTOR-19
0hS19
hARIATION SELECTOR-20
0hS20
hARIATION SELECTOR-21
0hS21
hARIATION SELECTOR-22
0hS22
hARIATION SELECTOR-23
0hS23
hARIATION SELECTOR-24
0hS24
hARIATION SELECTOR-25
0hS25
hARIATION SELECTOR-26
0hS26
hARIATION SELECTOR-27
0hS27
hARIATION SELECTOR-28
0hS28
hARIATION SELECTOR-29
0hS29
hARIATION SELECTOR-30
0hS30
hARIATION SELECTOR-31
0hS31
hARIATION SELECTOR-32
0hS32
hARIATION SELECTOR-33
0hS33
hARIATION SELECTOR-34
0hS34
hARIATION SELECTOR-35
0hS35
hARIATION SELECTOR-36
0hS36
hARIATION SELECTOR-37
0hS37
hARIATION SELECTOR-38
0hS38
hARIATION SELECTOR-39
0hS39
hARIATION SELECTOR-40
0hS40
hARIATION SELECTOR-41
0hS41
hARIATION SELECTOR-42
0hS42
hARIATION SELECTOR-43
0hS43
hARIATION SELECTOR-44
0hS44
hARIATION SELECTOR-45
0hS45
hARIATION SELECTOR-46
0hS46
hARIATION SELECTOR-47
0hS47
hARIATION SELECTOR-48
0hS48
hARIATION SELECTOR-49
0hS49
hARIATION SELECTOR-50
0hS50
hARIATION SELECTOR-51
0hS51
hARIATION SELECTOR-52
0hS52
hARIATION SELECTOR-53
0hS53
hARIATION SELECTOR-54
0hS54
hARIATION SELECTOR-55
0hS55
hARIATION SELECTOR-56
0hS56
hARIATION SELECTOR-57
0hS57
hARIATION SELECTOR-58
0hS58
hARIATION SELECTOR-59
0hS59
hARIATION SELECTOR-60
0hS60
hARIATION SELECTOR-61
0hS61
hARIATION SELECTOR-62
0hS62
hARIATION SELECTOR-63
0hS63
hARIATION SELECTOR-64
0hS64
hARIATION SELECTOR-65
0hS65
hARIATION SELECTOR-66
0hS66
hARIATION SELECTOR-67
0hS67
hARIATION SELECTOR-68
0hS68
hARIATION SELECTOR-69
0hS69
hARIATION SELECTOR-70
0hS70
hARIATION SELECTOR-71
0hS71
hARIATION SELECTOR-72
0hS72
hARIATION SELECTOR-73
0hS73
hARIATION SELECTOR-74
0hS74
hARIATION SELECTOR-75
0hS75
hARIATION SELECTOR-76
0hS76
hARIATION SELECTOR-77
0hS77
hARIATION SELECTOR-78
0hS78
hARIATION SELECTOR-79
0hS79
hARIATION SELECTOR-80
0hS80
hARIATION SELECTOR-81
0hS81
hARIATION SELECTOR-82
0hS82
hARIATION SELECTOR-83
0hS83
hARIATION SELECTOR-84
0hS84
hARIATION SELECTOR-85
0hS85
hARIATION SELECTOR-86
0hS86
hARIATION SELECTOR-87
0hS87
hARIATION SELECTOR-88
0hS88
hARIATION SELECTOR-89
0hS89
hARIATION SELECTOR-90
0hS90
hARIATION SELECTOR-91
0hS91
hARIATION SELECTOR-92
0hS92
hARIATION SELECTOR-93
0hS93
hARIATION SELECTOR-94
0hS94
hARIATION SELECTOR-95
0hS95
hARIATION SELECTOR-96
0hS96
hARIATION SELECTOR-97
0hS97
hARIATION SELECTOR-98
0hS98
hARIATION SELECTOR-99
0hS99
hARIATION SELECTOR-100
0hS100
hARIATION SELECTOR-101
0hS101
hARIATION SELECTOR-102
0hS102
hARIATION SELECTOR-103
0hS103
hARIATION SELECTOR-104
0hS104
hARIATION SELECTOR-105
0hS105
hARIATION SELECTOR-106
0hS106
hARIATION SELECTOR-107
0hS107
hARIATION SELECTOR-108
0hS108
hARIATION SELECTOR-109
0hS109
hARIATION SELECTOR-110
0hS110
hARIATION SELECTOR-111
0hS111
hARIATION SELECTOR-112
0hS112
hARIATION SELECTOR-113
0hS113
hARIATION SELECTOR-114
0hS114
hARIATION SELECTOR-115
0hS115
hARIATION SELECTOR-116
0hS116
hARIATION SELECTOR-117
0hS117
hARIATION SELECTOR-118
0hS118
hARIATION SELECTOR-119
0hS119
hARIATION SELECTOR-120
0hS120
hARIATION SELECTOR-121
0hS121
hARIATION SELECTOR-122
0hS122
hARIATION SELECTOR-123
0hS123
hARIATION SELECTOR-124
0hS124
hARIATION SELECTOR-125
0hS125
hARIATION SELECTOR-126
0hS126
hARIATION SELECTOR-127
0hS127
hARIATION SELECTOR-128
0hS128
hARIATION SELECTOR-129
0hS129
hARIATION SELECTOR-130
0hS130
hARIATION SELECTOR-131
0hS131
hARIATION SELECTOR-132
0hS132
hARIATION SELECTOR-133
0hS133
hARIATION SELECTOR-134
0hS134
hARIATION SELECTOR-135
0hS135
hARIATION SELECTOR-136
0hS136
hARIATION SELECTOR-137
0hS137
hARIATION SELECTOR-138
0hS138
hARIATION SELECTOR-139
0hS139
hARIATION SELECTOR-140
0hS140
hARIATION SELECTOR-141
0hS141
hARIATION SELECTOR-142
0hS142
hARIATION SELECTOR-143
0hS143
hARIATION SELECTOR-144
0hS144
hARIATION SELECTOR-145
0hS145
hARIATION SELECTOR-146
0hS146
hARIATION SELECTOR-147
0hS147
hARIATION SELECTOR-148
0hS148
hARIATION SELECTOR-149
0hS149
hARIATION SELECTOR-150
0hS150
hARIATION SELECTOR-151
0hS151
hARIATION SELECTOR-152
0hS152
hARIATION SELECTOR-153
0hS153
hARIATION SELECTOR-154
0hS154
hARIATION SELECTOR-155
0hS155
hARIATION SELECTOR-156
0hS156
hARIATION SELECTOR-157
0hS157
hARIATION SELECTOR-158
0hS158
hARIATION SELECTOR-159
0hS159
hARIATION SELECTOR-160
0hS160
hARIATION SELECTOR-161
0hS161
hARIATION SELECTOR-162
0hS162
hARIATION SELECTOR-163
0hS163
hARIATION SELECTOR-164
0hS164
hARIATION SELECTOR-165
0hS165
hARIATION SELECTOR-166
0hS166
hARIATION SELECTOR-167
0hS167
hARIATION SELECTOR-168
0hS168
hARIATION SELECTOR-169
0hS169
hARIATION SELECTOR-170
0hS170
hARIATION SELECTOR-171
0hS171
hARIATION SELECTOR-172
0hS172
hARIATION SELECTOR-173
0hS173
hARIATION SELECTOR-174
0hS174
hARIATION SELECTOR-175
0hS175
hARIATION SELECTOR-176
0hS176
hARIATION SELECTOR-177
0hS177
hARIATION SELECTOR-178
0hS178
hARIATION SELECTOR-179
0hS179
hARIATION SELECTOR-180
0hS180
hARIATION SELECTOR-181
0hS181
hARIATION SELECTOR-182
0hS182
hARIATION SELECTOR-183
0hS183
hARIATION SELECTOR-184
0hS184
hARIATION SELECTOR-185
0hS185
hARIATION SELECTOR-186
0hS186
hARIATION SELECTOR-187
0hS187
hARIATION SELECTOR-188
0hS188
hARIATION SELECTOR-189
0hS189
hARIATION SELECTOR-190
0hS190
hARIATION SELECTOR-191
0hS191
hARIATION SELECTOR-192
0hS192
hARIATION SELECTOR-193
0hS193
hARIATION SELECTOR-194
0hS194
hARIATION SELECTOR-195
0hS195
hARIATION SELECTOR-196
0hS196
hARIATION SELECTOR-197
0hS197
hARIATION SELECTOR-198
0hS198
hARIATION SELECTOR-199
0hS199
hARIATION SELECTOR-200
0hS200
hARIATION SELECTOR-201
0hS201
hARIATION SELECTOR-202
0hS202
hARIATION SELECTOR-203
0hS203
hARIATION SELECTOR-204
0hS204
hARIATION SELECTOR-205
0hS205
hARIATION SELECTOR-206
0hS206
hARIATION SELECTOR-207
0hS207
hARIATION SELECTOR-208
0hS208
hARIATION SELECTOR-209
0hS209
hARIATION SELECTOR-210
0hS210
hARIATION SELECTOR-211
0hS211
hARIATION SELECTOR-212
0hS212
hARIATION SELECTOR-213
0hS213
hARIATION SELECTOR-214
0hS214
hARIATION SELECTOR-215
0hS215
hARIATION SELECTOR-216
0hS216
hARIATION SELECTOR-217
0hS217
hARIATION SELECTOR-218
0hS218
hARIATION SELECTOR-219
0hS219
hARIATION SELECTOR-220
0hS220
hARIATION SELECTOR-221
0hS221
hARIATION SELECTOR-222
0hS222
hARIATION SELECTOR-223
0hS223
hARIATION SELECTOR-224
0hS224
hARIATION SELECTOR-225
0hS225
hARIATION SELECTOR-226
0hS226
hARIATION SELECTOR-227
0hS227
hARIATION SELECTOR-228
0hS228
hARIATION SELECTOR-229
0hS229
hARIATION SELECTOR-230
0hS230
hARIATION SELECTOR-231
0hS231
hARIATION SELECTOR-232
0hS232
hARIATION SELECTOR-233
0hS233
hARIATION SELECTOR-234
0hS234
hARIATION SELECTOR-235
0hS235
hARIATION SELECTOR-236
0hS236
hARIATION SELECTOR-237
0hS237
hARIATION SELECTOR-238
0hS238
hARIATION SELECTOR-239
0hS239
hARIATION SELECTOR-240
0hS240
hARIATION SELECTOR-241
0hS241
hARIATION SELECTOR-242
0hS242
hARIATION SELECTOR-243
0hS243
hARIATION SELECTOR-244
0hS244
hARIATION SELECTOR-245
0hS245
hARIATION SELECTOR-246
0hS246
hARIATION SELECTOR-247
0hS247
hARIATION SELECTOR-248
0hS248
hARIATION SELECTOR-249
0hS249
hARIATION SELECTOR-250
0hS250
hARIATION SELECTOR-251
0hS251
hARIATION SELECTOR-252
0hS252
hARIATION SELECTOR-253
0hS253
hARIATION SELECTOR-254
0hS254
hARIATION SELECTOR-255
0hS255
hARIATION SELECTOR-256
0hS256"

end NodeImage.Unicode
