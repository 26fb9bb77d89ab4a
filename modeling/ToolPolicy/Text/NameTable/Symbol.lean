/-!
# Punctuation, mathematics and technical signs

Punctuation, currency signs, arrows, operators, technical signs and box drawing. The names are
written as `CodePoint.findName?` reads them.
-/

namespace ToolPolicy.NameTable

private def symbolNames1 : String := "
=2000 aEN QUAD aEM QUAD aEN SPACE aEM SPACE aTHREE-PER-EM SPACE aFOUR-PER-EM SPACE aSIX-PER-EM
SPACE aFIGURE SPACE aPUNCTUATION SPACE aTHIN SPACE aHAIR SPACE aZERO WIDTH SPACE cNON-JOINER
cJOINER aLEFT-TO-RIGHT MARK aRIGHT-TO-LEFT MARK aHYPHEN aNON-BREAKING HYPHEN aFIGURE DASH aEN DASH
aEM DASH aHORIZONTAL BAR aDOUBLE VERTICAL LINE bLOW LINE aLEFT SINGLE QUOTATION MARK aRIGHT SINGLE
QUOTATION MARK aSINGLE LOW-9 QUOTATION MARK bHIGH-REVERSED-9 QUOTATION MARK aLEFT DOUBLE QUOTATION
MARK aRIGHT DOUBLE QUOTATION MARK aDOUBLE LOW-9 QUOTATION MARK bHIGH-REVERSED-9 QUOTATION MARK
aDAGGER aDOUBLE DAGGER aBULLET aTRIANGULAR BULLET aONE DOT LEADER aTWO DOT LEADER aHORIZONTAL
ELLIPSIS aHYPHENATION POINT aLINE SEPARATOR aPARAGRAPH SEPARATOR aLEFT-TO-RIGHT EMBEDDING
aRIGHT-TO-LEFT EMBEDDING aPOP DIRECTIONAL FORMATTING aLEFT-TO-RIGHT OVERRIDE aRIGHT-TO-LEFT
OVERRIDE aNARROW NO-BREAK SPACE aPER MILLE SIGN bTEN THOUSAND SIGN aPRIME aDOUBLE PRIME aTRIPLE
PRIME aREVERSED PRIME bDOUBLE PRIME bTRIPLE PRIME aCARET aSINGLE LEFT-POINTING ANGLE QUOTATION MARK
bRIGHT-POINTING ANGLE QUOTATION MARK aREFERENCE MARK aDOUBLE EXCLAMATION MARK aINTERROBANG
aOVERLINE aUNDERTIE aCHARACTER TIE aCARET INSERTION POINT aASTERISM aHYPHEN BULLET aFRACTION SLASH
aLEFT SQUARE BRACKET WITH QUILL aRIGHT SQUARE BRACKET WITH QUILL aDOUBLE QUESTION MARK aQUESTION
EXCLAMATION MARK aEXCLAMATION QUESTION MARK aTIRONIAN SIGN ET aREVERSED PILCROW SIGN aBLACK
LEFTWARDS BULLET bRIGHTWARDS BULLET aLOW ASTERISK aREVERSED SEMICOLON aCLOSE UP aTWO ASTERISKS
ALIGNED VERTICALLY aCOMMERCIAL MINUS SIGN aSWUNG DASH aINVERTED UNDERTIE aFLOWER PUNCTUATION MARK
aTHREE DOT PUNCTUATION aQUADRUPLE PRIME aFOUR DOT PUNCTUATION aFIVE DOT PUNCTUATION aTWO DOT
PUNCTUATION aFOUR DOT MARK aDOTTED CROSS aTRICOLON aVERTICAL FOUR DOTS aMEDIUM MATHEMATICAL SPACE
aWORD JOINER aFUNCTION APPLICATION aINVISIBLE TIMES bSEPARATOR bPLUS =2066 aLEFT-TO-RIGHT ISOLATE
aRIGHT-TO-LEFT ISOLATE aFIRST STRONG ISOLATE aPOP DIRECTIONAL ISOLATE aINHIBIT SYMMETRIC SWAPPING
aACTIVATE SYMMETRIC SWAPPING aINHIBIT ARABIC FORM SHAPING aACTIVATE ARABIC FORM SHAPING aNATIONAL
DIGIT SHAPES aNOMINAL DIGIT SHAPES aSUPERSCRIPT ZERO bLATIN SMALL LETTER I =2074 bFOUR bFIVE bSIX
bSEVEN bEIGHT bNINE bPLUS SIGN bMINUS bEQUALS SIGN bLEFT PARENTHESIS bRIGHT PARENTHESIS bLATIN
SMALL LETTER N aSUBSCRIPT ZERO bONE bTWO bTHREE bFOUR bFIVE bSIX bSEVEN bEIGHT bNINE bPLUS SIGN
bMINUS bEQUALS SIGN bLEFT PARENTHESIS bRIGHT PARENTHESIS =2090 aLATIN SUBSCRIPT SMALL LETTER A eE
eO eX eSCHWA eH eK eL eM eN eP eS eT =20A0 aEURO-CURRENCY SIGN aCOLON SIGN aCRUZEIRO SIGN aFRENCH
FRANC SIGN aLIRA SIGN aMILL SIGN aNAIRA SIGN aPESETA SIGN aRUPEE SIGN aWON SIGN aNEW SHEQEL SIGN
aDONG SIGN aEURO SIGN aKIP SIGN aTUGRIK SIGN aDRACHMA SIGN aGERMAN PENNY SIGN aPESO SIGN aGUARANI
SIGN aAUSTRAL SIGN aHRYVNIA SIGN aCEDI SIGN aLIVRE TOURNOIS SIGN aSPESMILO SIGN aTENGE SIGN aINDIAN
RUPEE SIGN aTURKISH LIRA SIGN aNORDIC MARK SIGN aMANAT SIGN aRUBLE SIGN aLARI SIGN aBITCOIN SIGN
aSOM SIGN =20D0 aCOMBINING LEFT HARPOON ABOVE bRIGHT HARPOON ABOVE bLONG VERTICAL LINE OVERLAY
bSHORT VERTICAL LINE OVERLAY bANTICLOCKWISE ARROW ABOVE bCLOCKWISE ARROW ABOVE bLEFT ARROW ABOVE
bRIGHT ARROW ABOVE bRING OVERLAY bCLOCKWISE RING OVERLAY bANTICLOCKWISE RING OVERLAY bTHREE DOTS
ABOVE bFOUR DOTS ABOVE bENCLOSING CIRCLE cSQUARE cDIAMOND cCIRCLE BACKSLASH bLEFT RIGHT ARROW ABOVE
bENCLOSING SCREEN cKEYCAP cUPWARD POINTING TRIANGLE bREVERSE SOLIDUS OVERLAY bDOUBLE VERTICAL
STROKE OVERLAY bANNUITY SYMBOL bTRIPLE UNDERDOT bWIDE BRIDGE ABOVE bLEFTWARDS ARROW OVERLAY bLONG
DOUBLE SOLIDUS OVERLAY bRIGHTWARDS HARPOON WITH BARB DOWNWARDS bLEFTWARDS HARPOON WITH BARB
DOWNWARDS bLEFT ARROW BELOW bRIGHT ARROW BELOW bASTERISK ABOVE =2100 aACCOUNT OF aADDRESSED TO THE
SUBJECT aDOUBLE-STRUCK CAPITAL C aDEGREE CELSIUS aCENTRE LINE SYMBOL aCARE OF aCADA UNA aEULER
CONSTANT aSCRUPLE aDEGREE FAHRENHEIT aSCRIPT SMALL G bCAPITAL H aBLACK-LETTER CAPITAL H
aDOUBLE-STRUCK CAPITAL H aPLANCK CONSTANT cOVER TWO PI aSCRIPT CAPITAL I aBLACK-LETTER CAPITAL I
aSCRIPT CAPITAL L bSMALL L aL B BAR SYMBOL aDOUBLE-STRUCK CAPITAL N aNUMERO SIGN aSOUND RECORDING
COPYRIGHT aSCRIPT CAPITAL P aDOUBLE-STRUCK CAPITAL P cQ aSCRIPT CAPITAL R aBLACK-LETTER CAPITAL R
aDOUBLE-STRUCK CAPITAL R aPRESCRIPTION TAKE aRESPONSE aSERVICE MARK aTELEPHONE SIGN aTRADE MARK
SIGN aVERSICLE aDOUBLE-STRUCK CAPITAL Z aOUNCE SIGN aOHM SIGN aINVERTED OHM SIGN aBLACK-LETTER
CAPITAL Z aTURNED GREEK SMALL LETTER IOTA aKELVIN SIGN aANGSTROM SIGN aSCRIPT CAPITAL B
aBLACK-LETTER CAPITAL C aESTIMATED SYMBOL aSCRIPT SMALL E bCAPITAL E cF aTURNED CAPITAL F aSCRIPT
CAPITAL M bSMALL O aALEF SYMBOL aBET SYMBOL aGIMEL SYMBOL aDALET SYMBOL aINFORMATION SOURCE
aROTATED CAPITAL Q aFACSIMILE SIGN aDOUBLE-STRUCK SMALL PI cGAMMA bCAPITAL GAMMA cPI bN-ARY
SUMMATION aTURNED SANS-SERIF CAPITAL G dL aREVERSED SANS-SERIF CAPITAL L aTURNED SANS-SERIF CAPITAL
Y aDOUBLE-STRUCK ITALIC CAPITAL D cSMALL D dE dI dJ aPROPERTY LINE aTURNED AMPERSAND aPER SIGN
aAKTIESELSKAB aTURNED SMALL F aSYMBOL FOR SAMARITAN SOURCE aVULGAR FRACTION ONE SEVENTH dNINTH
dTENTH dTHIRD cTWO THIRDS cONE FIFTH cTWO FIFTHS cTHREE FIFTHS cFOUR FIFTHS cONE SIXTH cFIVE SIXTHS
cONE EIGHTH cTHREE EIGHTHS cFIVE EIGHTHS cSEVEN EIGHTHS aFRACTION NUMERATOR ONE aROMAN NUMERAL ONE
cTWO cTHREE cFOUR cFIVE cSIX cSEVEN cEIGHT cNINE cTEN cELEVEN cTWELVE cFIFTY cONE HUNDRED cFIVE
HUNDRED cONE THOUSAND aSMALL ROMAN NUMERAL ONE dTWO dTHREE dFOUR dFIVE dSIX dSEVEN dEIGHT dNINE
dTEN dELEVEN dTWELVE dFIFTY dONE HUNDRED dFIVE HUNDRED dONE THOUSAND aROMAN NUMERAL ONE THOUSAND C
D cFIVE THOUSAND cTEN THOUSAND cREVERSED ONE HUNDRED aLATIN SMALL LETTER REVERSED C aROMAN NUMERAL
SIX LATE FORM cFIFTY EARLY FORM dTHOUSAND cONE HUNDRED THOUSAND aVULGAR FRACTION ZERO THIRDS
aTURNED DIGIT TWO cTHREE =2190 aLEFTWARDS ARROW aUPWARDS ARROW aRIGHTWARDS ARROW aDOWNWARDS ARROW
aLEFT RIGHT ARROW aUP DOWN ARROW aNORTH WEST ARROW bEAST ARROW aSOUTH EAST ARROW bWEST ARROW
aLEFTWARDS ARROW WITH STROKE aRIGHTWARDS ARROW WITH STROKE aLEFTWARDS WAVE ARROW aRIGHTWARDS WAVE
ARROW aLEFTWARDS TWO HEADED ARROW aUPWARDS TWO HEADED ARROW aRIGHTWARDS TWO HEADED ARROW aDOWNWARDS
TWO HEADED ARROW aLEFTWARDS ARROW WITH TAIL aRIGHTWARDS ARROW WITH TAIL aLEFTWARDS ARROW FROM BAR
aUPWARDS ARROW FROM BAR aRIGHTWARDS ARROW FROM BAR aDOWNWARDS ARROW FROM BAR aUP DOWN ARROW WITH
BASE aLEFTWARDS ARROW WITH HOOK aRIGHTWARDS ARROW WITH HOOK aLEFTWARDS ARROW WITH LOOP aRIGHTWARDS
ARROW WITH LOOP aLEFT RIGHT WAVE ARROW cARROW WITH STROKE aDOWNWARDS ZIGZAG ARROW aUPWARDS ARROW
WITH TIP LEFTWARDS eRIGHTWARDS aDOWNWARDS ARROW WITH TIP LEFTWARDS eRIGHTWARDS aRIGHTWARDS ARROW
WITH CORNER DOWNWARDS aDOWNWARDS ARROW WITH CORNER LEFTWARDS aANTICLOCKWISE TOP SEMICIRCLE ARROW
aCLOCKWISE TOP SEMICIRCLE ARROW aNORTH WEST ARROW TO LONG BAR aLEFTWARDS ARROW TO BAR OVER
RIGHTWARDS ARROW TO BAR aANTICLOCKWISE OPEN CIRCLE ARROW aCLOCKWISE OPEN CIRCLE ARROW aLEFTWARDS
HARPOON WITH BARB UPWARDS eDOWNWARDS aUPWARDS HARPOON WITH BARB RIGHTWARDS eLEFTWARDS aRIGHTWARDS
HARPOON WITH BARB UPWARDS eDOWNWARDS aDOWNWARDS HARPOON WITH BARB RIGHTWARDS eLEFTWARDS aRIGHTWARDS
ARROW OVER LEFTWARDS ARROW aUPWARDS ARROW LEFTWARDS OF DOWNWARDS ARROW aLEFTWARDS ARROW OVER
RIGHTWARDS ARROW bPAIRED ARROWS aUPWARDS PAIRED ARROWS aRIGHTWARDS PAIRED ARROWS aDOWNWARDS PAIRED
ARROWS aLEFTWARDS HARPOON OVER RIGHTWARDS HARPOON aRIGHTWARDS HARPOON OVER LEFTWARDS HARPOON
aLEFTWARDS DOUBLE ARROW WITH STROKE aLEFT RIGHT DOUBLE ARROW WITH STROKE aRIGHTWARDS DOUBLE ARROW
WITH STROKE aLEFTWARDS DOUBLE ARROW aUPWARDS DOUBLE ARROW aRIGHTWARDS DOUBLE ARROW aDOWNWARDS
DOUBLE ARROW aLEFT RIGHT DOUBLE ARROW aUP DOWN DOUBLE ARROW aNORTH WEST DOUBLE ARROW bEAST DOUBLE
ARROW aSOUTH EAST DOUBLE ARROW bWEST DOUBLE ARROW aLEFTWARDS TRIPLE ARROW aRIGHTWARDS TRIPLE ARROW
aLEFTWARDS SQUIGGLE ARROW aRIGHTWARDS SQUIGGLE ARROW aUPWARDS ARROW WITH DOUBLE STROKE aDOWNWARDS
ARROW WITH DOUBLE STROKE aLEFTWARDS DASHED ARROW aUPWARDS DASHED ARROW aRIGHTWARDS DASHED ARROW
aDOWNWARDS DASHED ARROW aLEFTWARDS ARROW TO BAR aRIGHTWARDS ARROW TO BAR aLEFTWARDS WHITE ARROW
aUPWARDS WHITE ARROW aRIGHTWARDS WHITE ARROW aDOWNWARDS WHITE ARROW aUPWARDS WHITE ARROW FROM BAR
dON PEDESTAL fWITH HORIZONTAL BAR gVERTICAL BAR cDOUBLE ARROW eON PEDESTAL aRIGHTWARDS WHITE ARROW
FROM WALL aNORTH WEST ARROW TO CORNER aSOUTH EAST ARROW TO CORNER aUP DOWN WHITE ARROW aRIGHT ARROW
WITH SMALL CIRCLE aDOWNWARDS ARROW LEFTWARDS OF UPWARDS ARROW aTHREE RIGHTWARDS ARROWS aLEFTWARDS
ARROW WITH VERTICAL STROKE aRIGHTWARDS ARROW WITH VERTICAL STROKE aLEFT RIGHT ARROW WITH VERTICAL
STROKE aLEFTWARDS ARROW WITH DOUBLE VERTICAL STROKE aRIGHTWARDS ARROW WITH DOUBLE VERTICAL STROKE
aLEFT RIGHT ARROW WITH DOUBLE VERTICAL STROKE aLEFTWARDS OPEN-HEADED ARROW aRIGHTWARDS OPEN-HEADED
ARROW aLEFT RIGHT OPEN-HEADED ARROW aFOR ALL aCOMPLEMENT aPARTIAL DIFFERENTIAL aTHERE EXISTS bDOES
NOT EXIST aEMPTY SET aINCREMENT aNABLA aELEMENT OF"

private def symbolNames2 : String := "
=2209 aNOT AN ELEMENT OF aSMALL ELEMENT OF aCONTAINS AS MEMBER aDOES NOT CONTAIN AS MEMBER aSMALL
CONTAINS AS MEMBER aEND OF PROOF aN-ARY PRODUCT bCOPRODUCT bSUMMATION aMINUS SIGN aMINUS-OR-PLUS
SIGN aDOT PLUS aDIVISION SLASH aSET MINUS aASTERISK OPERATOR aRING OPERATOR aBULLET OPERATOR
aSQUARE ROOT aCUBE ROOT aFOURTH ROOT aPROPORTIONAL TO aINFINITY aRIGHT ANGLE aANGLE aMEASURED ANGLE
aSPHERICAL ANGLE aDIVIDES aDOES NOT DIVIDE aPARALLEL TO aNOT PARALLEL TO aLOGICAL AND bOR
aINTERSECTION aUNION aINTEGRAL aDOUBLE INTEGRAL aTRIPLE INTEGRAL aCONTOUR INTEGRAL aSURFACE
INTEGRAL aVOLUME INTEGRAL aCLOCKWISE INTEGRAL bCONTOUR INTEGRAL aANTICLOCKWISE CONTOUR INTEGRAL
aTHEREFORE aBECAUSE aRATIO aPROPORTION aDOT MINUS aEXCESS aGEOMETRIC PROPORTION aHOMOTHETIC aTILDE
OPERATOR aREVERSED TILDE aINVERTED LAZY S aSINE WAVE aWREATH PRODUCT aNOT TILDE aMINUS TILDE
aASYMPTOTICALLY EQUAL TO aNOT ASYMPTOTICALLY EQUAL TO aAPPROXIMATELY EQUAL TO bBUT NOT ACTUALLY
EQUAL TO aNEITHER APPROXIMATELY NOR ACTUALLY EQUAL TO aALMOST EQUAL TO aNOT ALMOST EQUAL TO aALMOST
EQUAL OR EQUAL TO aTRIPLE TILDE aALL EQUAL TO aEQUIVALENT TO aGEOMETRICALLY EQUIVALENT TO
aDIFFERENCE BETWEEN aAPPROACHES THE LIMIT aGEOMETRICALLY EQUAL TO aAPPROXIMATELY EQUAL TO OR THE
IMAGE OF aIMAGE OF OR APPROXIMATELY EQUAL TO aCOLON EQUALS aEQUALS COLON aRING IN EQUAL TO bEQUAL
TO aCORRESPONDS TO aESTIMATES aEQUIANGULAR TO aSTAR EQUALS aDELTA EQUAL TO aEQUAL TO BY DEFINITION
aMEASURED BY aQUESTIONED EQUAL TO aNOT EQUAL TO aIDENTICAL TO aNOT IDENTICAL TO aSTRICTLY
EQUIVALENT TO aLESS-THAN OR EQUAL TO aGREATER-THAN OR EQUAL TO aLESS-THAN OVER EQUAL TO
aGREATER-THAN OVER EQUAL TO aLESS-THAN BUT NOT EQUAL TO aGREATER-THAN BUT NOT EQUAL TO aMUCH
LESS-THAN bGREATER-THAN aBETWEEN aNOT EQUIVALENT TO bLESS-THAN bGREATER-THAN aNEITHER LESS-THAN NOR
EQUAL TO bGREATER-THAN NOR EQUAL TO aLESS-THAN OR EQUIVALENT TO aGREATER-THAN OR EQUIVALENT TO
aNEITHER LESS-THAN NOR EQUIVALENT TO bGREATER-THAN NOR EQUIVALENT TO aLESS-THAN OR GREATER-THAN
aGREATER-THAN OR LESS-THAN aNEITHER LESS-THAN NOR GREATER-THAN bGREATER-THAN NOR LESS-THAN
aPRECEDES aSUCCEEDS aPRECEDES OR EQUAL TO aSUCCEEDS OR EQUAL TO aPRECEDES OR EQUIVALENT TO
aSUCCEEDS OR EQUIVALENT TO aDOES NOT PRECEDE cSUCCEED aSUBSET OF aSUPERSET OF aNOT A SUBSET OF
cSUPERSET OF aSUBSET OF OR EQUAL TO aSUPERSET OF OR EQUAL TO aNEITHER A SUBSET OF NOR EQUAL TO
cSUPERSET OF NOR EQUAL TO aSUBSET OF WITH NOT EQUAL TO aSUPERSET OF WITH NOT EQUAL TO aMULTISET
bMULTIPLICATION bUNION aSQUARE IMAGE OF bORIGINAL OF bIMAGE OF OR EQUAL TO bORIGINAL OF OR EQUAL TO
bCAP bCUP aCIRCLED PLUS bMINUS bTIMES bDIVISION SLASH bDOT OPERATOR bRING OPERATOR bASTERISK
OPERATOR bEQUALS bDASH aSQUARED PLUS bMINUS bTIMES bDOT OPERATOR aRIGHT TACK aLEFT TACK aDOWN TACK
aUP TACK aASSERTION aMODELS aTRUE aFORCES aTRIPLE VERTICAL BAR RIGHT TURNSTILE aDOUBLE VERTICAL BAR
DOUBLE RIGHT TURNSTILE aDOES NOT PROVE aNOT TRUE aDOES NOT FORCE aNEGATED DOUBLE VERTICAL BAR
DOUBLE RIGHT TURNSTILE aPRECEDES UNDER RELATION aSUCCEEDS UNDER RELATION aNORMAL SUBGROUP OF
aCONTAINS AS NORMAL SUBGROUP aNORMAL SUBGROUP OF OR EQUAL TO aCONTAINS AS NORMAL SUBGROUP OR EQUAL
TO aORIGINAL OF aIMAGE OF aMULTIMAP aHERMITIAN CONJUGATE MATRIX aINTERCALATE aXOR aNAND aNOR aRIGHT
ANGLE WITH ARC bTRIANGLE aN-ARY LOGICAL AND cOR bINTERSECTION bUNION aDIAMOND OPERATOR aDOT
OPERATOR aSTAR OPERATOR aDIVISION TIMES aBOWTIE aLEFT NORMAL FACTOR SEMIDIRECT PRODUCT aRIGHT
NORMAL FACTOR SEMIDIRECT PRODUCT aLEFT SEMIDIRECT PRODUCT aRIGHT SEMIDIRECT PRODUCT aREVERSED TILDE
EQUALS aCURLY LOGICAL OR cAND aDOUBLE SUBSET bSUPERSET bINTERSECTION bUNION aPITCHFORK aEQUAL AND
PARALLEL TO aLESS-THAN WITH DOT aGREATER-THAN WITH DOT aVERY MUCH LESS-THAN cGREATER-THAN
aLESS-THAN EQUAL TO OR GREATER-THAN aGREATER-THAN EQUAL TO OR LESS-THAN aEQUAL TO OR LESS-THAN
dGREATER-THAN dPRECEDES dSUCCEEDS aDOES NOT PRECEDE OR EQUAL cSUCCEED OR EQUAL aNOT SQUARE IMAGE OF
OR EQUAL TO cORIGINAL OF OR EQUAL TO aSQUARE IMAGE OF OR NOT EQUAL TO bORIGINAL OF OR NOT EQUAL TO
aLESS-THAN BUT NOT EQUIVALENT TO aGREATER-THAN BUT NOT EQUIVALENT TO aPRECEDES BUT NOT EQUIVALENT
TO aSUCCEEDS BUT NOT EQUIVALENT TO aNOT NORMAL SUBGROUP OF aDOES NOT CONTAIN AS NORMAL SUBGROUP
aNOT NORMAL SUBGROUP OF OR EQUAL TO aDOES NOT CONTAIN AS NORMAL SUBGROUP OR EQUAL aVERTICAL
ELLIPSIS aMIDLINE HORIZONTAL ELLIPSIS aUP RIGHT DIAGONAL ELLIPSIS aDOWN RIGHT DIAGONAL ELLIPSIS
aELEMENT OF WITH LONG HORIZONTAL STROKE dVERTICAL BAR AT END OF HORIZONTAL STROKE aSMALL ELEMENT OF
WITH VERTICAL BAR AT END OF HORIZONTAL STROKE aELEMENT OF WITH DOT ABOVE dOVERBAR aSMALL ELEMENT OF
WITH OVERBAR aELEMENT OF WITH UNDERBAR dTWO HORIZONTAL STROKES aCONTAINS WITH LONG HORIZONTAL
STROKE cVERTICAL BAR AT END OF HORIZONTAL STROKE aSMALL CONTAINS WITH VERTICAL BAR AT END OF
HORIZONTAL STROKE aCONTAINS WITH OVERBAR aSMALL CONTAINS WITH OVERBAR aZ NOTATION BAG MEMBERSHIP
aDIAMETER SIGN aELECTRIC ARROW aHOUSE aUP ARROWHEAD aDOWN ARROWHEAD aPROJECTIVE aPERSPECTIVE aWAVY
LINE aLEFT CEILING aRIGHT CEILING aLEFT FLOOR aRIGHT FLOOR aBOTTOM RIGHT CROP bLEFT CROP aTOP RIGHT
CROP bLEFT CROP aREVERSED NOT SIGN aSQUARE LOZENGE aARC aSEGMENT aSECTOR aTELEPHONE RECORDER
aPOSITION INDICATOR aVIEWDATA SQUARE aPLACE OF INTEREST SIGN aTURNED NOT SIGN aWATCH aHOURGLASS
aTOP LEFT CORNER bRIGHT CORNER aBOTTOM LEFT CORNER bRIGHT CORNER aTOP HALF INTEGRAL aBOTTOM HALF
INTEGRAL aFROWN aSMILE aUP ARROWHEAD BETWEEN TWO HORIZONTAL BARS aOPTION KEY aERASE TO THE RIGHT aX
IN A RECTANGLE BOX aKEYBOARD aLEFT-POINTING ANGLE BRACKET aRIGHT-POINTING ANGLE BRACKET aERASE TO
THE LEFT aBENZENE RING aCYLINDRICITY aALL AROUND-PROFILE aSYMMETRY aTOTAL RUNOUT aDIMENSION ORIGIN
aCONICAL TAPER aSLOPE aCOUNTERBORE aCOUNTERSINK aAPL FUNCTIONAL SYMBOL I-BEAM dSQUISH QUAD dQUAD
EQUAL eDIVIDE eDIAMOND eJOT eCIRCLE dCIRCLE STILE eJOT dSLASH BAR dBACKSLASH BAR dQUAD SLASH
eBACKSLASH eLESS-THAN eGREATER-THAN dLEFTWARDS VANE dRIGHTWARDS VANE dQUAD LEFTWARDS ARROW
eRIGHTWARDS ARROW dCIRCLE BACKSLASH dDOWN TACK UNDERBAR dDELTA STILE dQUAD DOWN CARET eDELTA dDOWN
TACK JOT dUPWARDS VANE dQUAD UPWARDS ARROW dUP TACK OVERBAR dDEL STILE dQUAD UP CARET eDEL dUP TACK
JOT dDOWNWARDS VANE dQUAD DOWNWARDS ARROW dQUOTE UNDERBAR dDELTA UNDERBAR dDIAMOND UNDERBAR dJOT
UNDERBAR dCIRCLE UNDERBAR dUP SHOE JOT dQUOTE QUAD dCIRCLE STAR dQUAD COLON dUP TACK DIAERESIS dDEL
DIAERESIS dSTAR DIAERESIS dJOT DIAERESIS dCIRCLE DIAERESIS dDOWN SHOE STILE dLEFT SHOE STILE dTILDE
DIAERESIS dGREATER-THAN DIAERESIS dCOMMA BAR dDEL TILDE dZILDE dSTILE TILDE dSEMICOLON UNDERBAR
dQUAD NOT EQUAL eQUESTION dDOWN CARET TILDE dUP CARET TILDE dIOTA dRHO dOMEGA dALPHA UNDERBAR
dEPSILON UNDERBAR dIOTA UNDERBAR dOMEGA UNDERBAR dALPHA aNOT CHECK MARK aRIGHT ANGLE WITH DOWNWARDS
ZIGZAG ARROW aSHOULDERED OPEN BOX aBELL SYMBOL aVERTICAL LINE WITH MIDDLE DOT aINSERTION SYMBOL
aCONTINUOUS UNDERLINE SYMBOL aDISCONTINUOUS UNDERLINE SYMBOL aEMPHASIS SYMBOL aCOMPOSITION SYMBOL
aWHITE SQUARE WITH CENTRE VERTICAL LINE aENTER SYMBOL aALTERNATIVE KEY SYMBOL aHELM SYMBOL aCIRCLED
HORIZONTAL BAR WITH NOTCH bTRIANGLE DOWN aBROKEN CIRCLE WITH NORTHWEST ARROW aUNDO SYMBOL
aMONOSTABLE SYMBOL aHYSTERESIS SYMBOL aOPEN-CIRCUIT-OUTPUT H-TYPE SYMBOL bL-TYPE SYMBOL
aPASSIVE-PULL-DOWN-OUTPUT SYMBOL aPASSIVE-PULL-UP-OUTPUT SYMBOL aDIRECT CURRENT SYMBOL FORM TWO
aSOFTWARE-FUNCTION SYMBOL aAPL FUNCTIONAL SYMBOL QUAD aDECIMAL SEPARATOR KEY SYMBOL aPREVIOUS PAGE
aNEXT PAGE aPRINT SCREEN SYMBOL aCLEAR SCREEN SYMBOL aLEFT PARENTHESIS UPPER HOOK cEXTENSION cLOWER
HOOK aRIGHT PARENTHESIS UPPER HOOK cEXTENSION cLOWER HOOK aLEFT SQUARE BRACKET UPPER CORNER
dEXTENSION dLOWER CORNER aRIGHT SQUARE BRACKET UPPER CORNER dEXTENSION dLOWER CORNER aLEFT CURLY
BRACKET UPPER HOOK dMIDDLE PIECE dLOWER HOOK aCURLY BRACKET EXTENSION aRIGHT CURLY BRACKET UPPER
HOOK dMIDDLE PIECE dLOWER HOOK aINTEGRAL EXTENSION aHORIZONTAL LINE EXTENSION aUPPER LEFT OR LOWER
RIGHT CURLY BRACKET SECTION bRIGHT OR LOWER LEFT CURLY BRACKET SECTION aSUMMATION TOP bBOTTOM aTOP
SQUARE BRACKET aBOTTOM SQUARE BRACKET dOVER TOP SQUARE BRACKET aRADICAL SYMBOL BOTTOM aLEFT
VERTICAL BOX LINE aRIGHT VERTICAL BOX LINE aHORIZONTAL SCAN LINE-1 cLINE-3 cLINE-7 cLINE-9
aDENTISTRY SYMBOL LIGHT VERTICAL AND TOP RIGHT fBOTTOM RIGHT eWITH CIRCLE"

private def symbolNames3 : String := "
=23C1 aDENTISTRY SYMBOL LIGHT DOWN AND HORIZONTAL WITH CIRCLE dUP AND HORIZONTAL WITH CIRCLE
dVERTICAL WITH TRIANGLE dDOWN AND HORIZONTAL WITH TRIANGLE dUP AND HORIZONTAL WITH TRIANGLE
dVERTICAL AND WAVE dDOWN AND HORIZONTAL WITH WAVE dUP AND HORIZONTAL WITH WAVE dDOWN AND HORIZONTAL
dUP AND HORIZONTAL dVERTICAL AND TOP LEFT fBOTTOM LEFT aSQUARE FOOT aRETURN SYMBOL aEJECT SYMBOL
aVERTICAL LINE EXTENSION aMETRICAL BREVE bLONG OVER SHORT bSHORT OVER LONG bLONG OVER TWO SHORTS
bTWO SHORTS OVER LONG dJOINED bTRISEME bTETRASEME bPENTASEME aEARTH GROUND aFUSE aTOP PARENTHESIS
aBOTTOM PARENTHESIS aTOP CURLY BRACKET aBOTTOM CURLY BRACKET aTOP TORTOISE SHELL BRACKET aBOTTOM
TORTOISE SHELL BRACKET aWHITE TRAPEZIUM aBENZENE RING WITH CIRCLE aSTRAIGHTNESS aFLATNESS aAC
CURRENT aELECTRICAL INTERSECTION aDECIMAL EXPONENT SYMBOL aBLACK RIGHT-POINTING DOUBLE TRIANGLE
bLEFT-POINTING DOUBLE TRIANGLE bUP-POINTING DOUBLE TRIANGLE bDOWN-POINTING DOUBLE TRIANGLE
bRIGHT-POINTING DOUBLE TRIANGLE WITH VERTICAL BAR bLEFT-POINTING DOUBLE TRIANGLE WITH VERTICAL BAR
bRIGHT-POINTING TRIANGLE WITH DOUBLE VERTICAL BAR aALARM CLOCK aSTOPWATCH aTIMER CLOCK aHOURGLASS
WITH FLOWING SAND aBLACK MEDIUM LEFT-POINTING TRIANGLE cRIGHT-POINTING TRIANGLE cUP-POINTING
TRIANGLE cDOWN-POINTING TRIANGLE aDOUBLE VERTICAL BAR aBLACK SQUARE FOR STOP bCIRCLE FOR RECORD
aPOWER SYMBOL bON-OFF SYMBOL bON SYMBOL bSLEEP SYMBOL aOBSERVER EYE SYMBOL aSYMBOL FOR NULL cSTART
OF HEADING eTEXT cEND OF TEXT eTRANSMISSION cENQUIRY cACKNOWLEDGE cBELL cBACKSPACE cHORIZONTAL
TABULATION cLINE FEED cVERTICAL TABULATION cFORM FEED cCARRIAGE RETURN cSHIFT OUT dIN cDATA LINK
ESCAPE cDEVICE CONTROL ONE eTWO eTHREE eFOUR cNEGATIVE ACKNOWLEDGE cSYNCHRONOUS IDLE cEND OF
TRANSMISSION BLOCK cCANCEL cEND OF MEDIUM cSUBSTITUTE cESCAPE cFILE SEPARATOR cGROUP SEPARATOR
cRECORD SEPARATOR cUNIT SEPARATOR cSPACE cDELETE aBLANK SYMBOL aOPEN BOX aSYMBOL FOR NEWLINE
cDELETE FORM TWO cSUBSTITUTE FORM TWO =2440 aOCR HOOK bCHAIR bFORK bINVERTED FORK bBELT BUCKLE bBOW
TIE bBRANCH BANK IDENTIFICATION bAMOUNT OF CHECK bDASH bCUSTOMER ACCOUNT NUMBER bDOUBLE BACKSLASH
=2460 aCIRCLED DIGIT ONE cTWO cTHREE cFOUR cFIVE cSIX cSEVEN cEIGHT cNINE bNUMBER TEN cELEVEN
cTWELVE cTHIRTEEN cFOURTEEN cFIFTEEN cSIXTEEN cSEVENTEEN cEIGHTEEN cNINETEEN cTWENTY aPARENTHESIZED
DIGIT ONE cTWO cTHREE cFOUR cFIVE cSIX cSEVEN cEIGHT cNINE bNUMBER TEN cELEVEN cTWELVE cTHIRTEEN
cFOURTEEN cFIFTEEN cSIXTEEN cSEVENTEEN cEIGHTEEN cNINETEEN cTWENTY aDIGIT ONE FULL STOP bTWO FULL
STOP bTHREE FULL STOP bFOUR FULL STOP bFIVE FULL STOP bSIX FULL STOP bSEVEN FULL STOP bEIGHT FULL
STOP bNINE FULL STOP aNUMBER TEN FULL STOP bELEVEN FULL STOP bTWELVE FULL STOP bTHIRTEEN FULL STOP
bFOURTEEN FULL STOP bFIFTEEN FULL STOP bSIXTEEN FULL STOP bSEVENTEEN FULL STOP bEIGHTEEN FULL STOP
bNINETEEN FULL STOP bTWENTY FULL STOP aPARENTHESIZED LATIN SMALL LETTER A eB eC eD eE eF eG eH eI
eJ eK eL eM eN eO eP eQ eR eS eT eU eV eW eX eY eZ aCIRCLED LATIN CAPITAL LETTER A eB eC eD eE eF
eG eH eI eJ eK eL eM eN eO eP eQ eR eS eT eU eV eW eX eY eZ cSMALL LETTER A eB eC eD eE eF eG eH eI
eJ eK eL eM eN eO eP eQ eR eS eT eU eV eW eX eY eZ bDIGIT ZERO aNEGATIVE CIRCLED NUMBER ELEVEN
dTWELVE dTHIRTEEN dFOURTEEN dFIFTEEN dSIXTEEN dSEVENTEEN dEIGHTEEN dNINETEEN dTWENTY aDOUBLE
CIRCLED DIGIT ONE dTWO dTHREE dFOUR dFIVE dSIX dSEVEN dEIGHT dNINE cNUMBER TEN aNEGATIVE CIRCLED
DIGIT ZERO aBOX DRAWINGS LIGHT HORIZONTAL cHEAVY HORIZONTAL cLIGHT VERTICAL cHEAVY VERTICAL cLIGHT
TRIPLE DASH HORIZONTAL cHEAVY TRIPLE DASH HORIZONTAL cLIGHT TRIPLE DASH VERTICAL cHEAVY TRIPLE DASH
VERTICAL cLIGHT QUADRUPLE DASH HORIZONTAL cHEAVY QUADRUPLE DASH HORIZONTAL cLIGHT QUADRUPLE DASH
VERTICAL cHEAVY QUADRUPLE DASH VERTICAL cLIGHT DOWN AND RIGHT cDOWN LIGHT AND RIGHT HEAVY dHEAVY
AND RIGHT LIGHT cHEAVY DOWN AND RIGHT cLIGHT DOWN AND LEFT cDOWN LIGHT AND LEFT HEAVY dHEAVY AND
LEFT LIGHT cHEAVY DOWN AND LEFT cLIGHT UP AND RIGHT cUP LIGHT AND RIGHT HEAVY dHEAVY AND RIGHT
LIGHT cHEAVY UP AND RIGHT cLIGHT UP AND LEFT cUP LIGHT AND LEFT HEAVY dHEAVY AND LEFT LIGHT cHEAVY
UP AND LEFT cLIGHT VERTICAL AND RIGHT cVERTICAL LIGHT AND RIGHT HEAVY cUP HEAVY AND RIGHT DOWN
LIGHT cDOWN HEAVY AND RIGHT UP LIGHT cVERTICAL HEAVY AND RIGHT LIGHT cDOWN LIGHT AND RIGHT UP HEAVY
cUP LIGHT AND RIGHT DOWN HEAVY cHEAVY VERTICAL AND RIGHT cLIGHT VERTICAL AND LEFT cVERTICAL LIGHT
AND LEFT HEAVY cUP HEAVY AND LEFT DOWN LIGHT cDOWN HEAVY AND LEFT UP LIGHT cVERTICAL HEAVY AND LEFT
LIGHT cDOWN LIGHT AND LEFT UP HEAVY cUP LIGHT AND LEFT DOWN HEAVY cHEAVY VERTICAL AND LEFT cLIGHT
DOWN AND HORIZONTAL cLEFT HEAVY AND RIGHT DOWN LIGHT cRIGHT HEAVY AND LEFT DOWN LIGHT cDOWN LIGHT
AND HORIZONTAL HEAVY dHEAVY AND HORIZONTAL LIGHT cRIGHT LIGHT AND LEFT DOWN HEAVY cLEFT LIGHT AND
RIGHT DOWN HEAVY cHEAVY DOWN AND HORIZONTAL cLIGHT UP AND HORIZONTAL cLEFT HEAVY AND RIGHT UP LIGHT
cRIGHT HEAVY AND LEFT UP LIGHT cUP LIGHT AND HORIZONTAL HEAVY dHEAVY AND HORIZONTAL LIGHT cRIGHT
LIGHT AND LEFT UP HEAVY cLEFT LIGHT AND RIGHT UP HEAVY cHEAVY UP AND HORIZONTAL cLIGHT VERTICAL AND
HORIZONTAL cLEFT HEAVY AND RIGHT VERTICAL LIGHT cRIGHT HEAVY AND LEFT VERTICAL LIGHT cVERTICAL
LIGHT AND HORIZONTAL HEAVY cUP HEAVY AND DOWN HORIZONTAL LIGHT cDOWN HEAVY AND UP HORIZONTAL LIGHT
cVERTICAL HEAVY AND HORIZONTAL LIGHT cLEFT UP HEAVY AND RIGHT DOWN LIGHT cRIGHT UP HEAVY AND LEFT
DOWN LIGHT cLEFT DOWN HEAVY AND RIGHT UP LIGHT cRIGHT DOWN HEAVY AND LEFT UP LIGHT cDOWN LIGHT AND
UP HORIZONTAL HEAVY cUP LIGHT AND DOWN HORIZONTAL HEAVY cRIGHT LIGHT AND LEFT VERTICAL HEAVY cLEFT
LIGHT AND RIGHT VERTICAL HEAVY cHEAVY VERTICAL AND HORIZONTAL cLIGHT DOUBLE DASH HORIZONTAL cHEAVY
DOUBLE DASH HORIZONTAL cLIGHT DOUBLE DASH VERTICAL cHEAVY DOUBLE DASH VERTICAL cDOUBLE HORIZONTAL
dVERTICAL cDOWN SINGLE AND RIGHT DOUBLE dDOUBLE AND RIGHT SINGLE cDOUBLE DOWN AND RIGHT cDOWN
SINGLE AND LEFT DOUBLE dDOUBLE AND LEFT SINGLE cDOUBLE DOWN AND LEFT cUP SINGLE AND RIGHT DOUBLE
dDOUBLE AND RIGHT SINGLE cDOUBLE UP AND RIGHT cUP SINGLE AND LEFT DOUBLE dDOUBLE AND LEFT SINGLE
cDOUBLE UP AND LEFT cVERTICAL SINGLE AND RIGHT DOUBLE dDOUBLE AND RIGHT SINGLE cDOUBLE VERTICAL AND
RIGHT cVERTICAL SINGLE AND LEFT DOUBLE dDOUBLE AND LEFT SINGLE cDOUBLE VERTICAL AND LEFT cDOWN
SINGLE AND HORIZONTAL DOUBLE dDOUBLE AND HORIZONTAL SINGLE cDOUBLE DOWN AND HORIZONTAL cUP SINGLE
AND HORIZONTAL DOUBLE dDOUBLE AND HORIZONTAL SINGLE cDOUBLE UP AND HORIZONTAL cVERTICAL SINGLE AND
HORIZONTAL DOUBLE dDOUBLE AND HORIZONTAL SINGLE cDOUBLE VERTICAL AND HORIZONTAL cLIGHT ARC DOWN AND
RIGHT gLEFT eUP AND LEFT gRIGHT dDIAGONAL UPPER RIGHT TO LOWER LEFT fLEFT TO LOWER RIGHT eCROSS
dLEFT dUP dRIGHT dDOWN cHEAVY LEFT dUP dRIGHT dDOWN cLIGHT LEFT AND HEAVY RIGHT dUP AND HEAVY DOWN
cHEAVY LEFT AND LIGHT RIGHT dUP AND LIGHT DOWN aUPPER HALF BLOCK aLOWER ONE EIGHTH BLOCK cQUARTER
BLOCK bTHREE EIGHTHS BLOCK bHALF BLOCK bFIVE EIGHTHS BLOCK bTHREE QUARTERS BLOCK bSEVEN EIGHTHS
BLOCK aFULL BLOCK aLEFT SEVEN EIGHTHS BLOCK bTHREE QUARTERS BLOCK bFIVE EIGHTHS BLOCK bHALF BLOCK
bTHREE EIGHTHS BLOCK bONE QUARTER BLOCK cEIGHTH BLOCK aRIGHT HALF BLOCK aLIGHT SHADE aMEDIUM SHADE
aDARK SHADE aUPPER ONE EIGHTH BLOCK aRIGHT ONE EIGHTH BLOCK aQUADRANT LOWER LEFT cRIGHT bUPPER LEFT
dAND LOWER LEFT AND LOWER RIGHT fRIGHT eUPPER RIGHT AND LOWER LEFT iRIGHT cRIGHT dAND LOWER LEFT
gAND LOWER RIGHT aBLACK SQUARE aWHITE SQUARE cWITH ROUNDED CORNERS cCONTAINING BLACK SMALL SQUARE
aSQUARE WITH HORIZONTAL FILL cVERTICAL FILL cORTHOGONAL CROSSHATCH FILL cUPPER LEFT TO LOWER RIGHT
FILL dRIGHT TO LOWER LEFT FILL cDIAGONAL CROSSHATCH FILL aBLACK SMALL SQUARE aWHITE SMALL SQUARE
aBLACK RECTANGLE aWHITE RECTANGLE aBLACK VERTICAL RECTANGLE aWHITE VERTICAL RECTANGLE aBLACK
PARALLELOGRAM aWHITE PARALLELOGRAM aBLACK UP-POINTING TRIANGLE aWHITE UP-POINTING TRIANGLE aBLACK
UP-POINTING SMALL TRIANGLE aWHITE UP-POINTING SMALL TRIANGLE aBLACK RIGHT-POINTING TRIANGLE aWHITE
RIGHT-POINTING TRIANGLE aBLACK RIGHT-POINTING SMALL TRIANGLE aWHITE RIGHT-POINTING SMALL TRIANGLE
aBLACK RIGHT-POINTING POINTER aWHITE RIGHT-POINTING POINTER aBLACK DOWN-POINTING TRIANGLE aWHITE
DOWN-POINTING TRIANGLE aBLACK DOWN-POINTING SMALL TRIANGLE aWHITE DOWN-POINTING SMALL TRIANGLE
aBLACK LEFT-POINTING TRIANGLE aWHITE LEFT-POINTING TRIANGLE aBLACK LEFT-POINTING SMALL TRIANGLE
aWHITE LEFT-POINTING SMALL TRIANGLE aBLACK LEFT-POINTING POINTER aWHITE LEFT-POINTING POINTER
aBLACK DIAMOND aWHITE DIAMOND cCONTAINING BLACK SMALL DIAMOND aFISHEYE aLOZENGE aWHITE CIRCLE
aDOTTED CIRCLE aCIRCLE WITH VERTICAL FILL aBULLSEYE"

private def symbolNames4 : String := "
=25CF aBLACK CIRCLE aCIRCLE WITH LEFT HALF BLACK cRIGHT HALF BLACK cLOWER HALF BLACK cUPPER HALF
BLACK dRIGHT QUADRANT BLACK cALL BUT UPPER LEFT QUADRANT BLACK aLEFT HALF BLACK CIRCLE aRIGHT HALF
BLACK CIRCLE aINVERSE BULLET bWHITE CIRCLE aUPPER HALF INVERSE WHITE CIRCLE aLOWER HALF INVERSE
WHITE CIRCLE aUPPER LEFT QUADRANT CIRCULAR ARC bRIGHT QUADRANT CIRCULAR ARC aLOWER RIGHT QUADRANT
CIRCULAR ARC bLEFT QUADRANT CIRCULAR ARC aUPPER HALF CIRCLE aLOWER HALF CIRCLE aBLACK LOWER RIGHT
TRIANGLE cLEFT TRIANGLE bUPPER LEFT TRIANGLE cRIGHT TRIANGLE aWHITE BULLET aSQUARE WITH LEFT HALF
BLACK cRIGHT HALF BLACK cUPPER LEFT DIAGONAL HALF BLACK cLOWER RIGHT DIAGONAL HALF BLACK aWHITE
SQUARE WITH VERTICAL BISECTING LINE bUP-POINTING TRIANGLE WITH DOT aUP-POINTING TRIANGLE WITH LEFT
HALF BLACK dRIGHT HALF BLACK aLARGE CIRCLE aWHITE SQUARE WITH UPPER LEFT QUADRANT dLOWER LEFT
QUADRANT eRIGHT QUADRANT dUPPER RIGHT QUADRANT bCIRCLE WITH UPPER LEFT QUADRANT dLOWER LEFT
QUADRANT eRIGHT QUADRANT dUPPER RIGHT QUADRANT aUPPER LEFT TRIANGLE bRIGHT TRIANGLE aLOWER LEFT
TRIANGLE aWHITE MEDIUM SQUARE aBLACK MEDIUM SQUARE aWHITE MEDIUM SMALL SQUARE aBLACK MEDIUM SMALL
SQUARE aLOWER RIGHT TRIANGLE"

/-- The names of these code points, in pieces. -/
def symbolNames : List String :=
  [symbolNames1, symbolNames2, symbolNames3, symbolNames4]

end ToolPolicy.NameTable
