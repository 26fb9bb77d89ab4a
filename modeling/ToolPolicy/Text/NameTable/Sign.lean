/-!
# Signs, dingbats and further arrows

Miscellaneous signs, dingbats, Braille patterns and supplemental arrows and operators. The names are
written as `CodePoint.findName?` reads them.
-/

namespace ToolPolicy.NameTable

private def signNames1 : String := "
=2600 aBLACK SUN WITH RAYS aCLOUD aUMBRELLA aSNOWMAN aCOMET aBLACK STAR aWHITE STAR aLIGHTNING
aTHUNDERSTORM aSUN aASCENDING NODE aDESCENDING NODE aCONJUNCTION aOPPOSITION aBLACK TELEPHONE
aWHITE TELEPHONE aBALLOT BOX cWITH CHECK dX aSALTIRE aUMBRELLA WITH RAIN DROPS aHOT BEVERAGE aWHITE
SHOGI PIECE aBLACK SHOGI PIECE aSHAMROCK aREVERSED ROTATED FLORAL HEART BULLET aBLACK LEFT POINTING
INDEX bRIGHT POINTING INDEX aWHITE LEFT POINTING INDEX bUP POINTING INDEX bRIGHT POINTING INDEX
bDOWN POINTING INDEX aSKULL AND CROSSBONES aCAUTION SIGN aRADIOACTIVE SIGN aBIOHAZARD SIGN
aCADUCEUS aANKH aORTHODOX CROSS aCHI RHO aCROSS OF LORRAINE cJERUSALEM aSTAR AND CRESCENT aFARSI
SYMBOL aADI SHAKTI aHAMMER AND SICKLE aPEACE SYMBOL aYIN YANG aTRIGRAM FOR HEAVEN cLAKE cFIRE
cTHUNDER cWIND cWATER cMOUNTAIN cEARTH aWHEEL OF DHARMA aWHITE FROWNING FACE bSMILING FACE aBLACK
SMILING FACE aWHITE SUN WITH RAYS aFIRST QUARTER MOON aLAST QUARTER MOON aMERCURY aFEMALE SIGN
aEARTH aMALE SIGN aJUPITER aSATURN aURANUS aNEPTUNE aPLUTO aARIES aTAURUS aGEMINI aCANCER aLEO
aVIRGO aLIBRA aSCORPIUS aSAGITTARIUS aCAPRICORN aAQUARIUS aPISCES aWHITE CHESS KING cQUEEN cROOK
cBISHOP cKNIGHT cPAWN aBLACK CHESS KING cQUEEN cROOK cBISHOP cKNIGHT cPAWN bSPADE SUIT aWHITE HEART
SUIT bDIAMOND SUIT aBLACK CLUB SUIT aWHITE SPADE SUIT aBLACK HEART SUIT bDIAMOND SUIT aWHITE CLUB
SUIT aHOT SPRINGS aQUARTER NOTE aEIGHTH NOTE aBEAMED EIGHTH NOTES bSIXTEENTH NOTES aMUSIC FLAT SIGN
bNATURAL SIGN bSHARP SIGN aWEST SYRIAC CROSS aEAST SYRIAC CROSS aUNIVERSAL RECYCLING SYMBOL
aRECYCLING SYMBOL FOR TYPE-1 PLASTICS dTYPE-2 PLASTICS dTYPE-3 PLASTICS dTYPE-4 PLASTICS dTYPE-5
PLASTICS dTYPE-6 PLASTICS dTYPE-7 PLASTICS dGENERIC MATERIALS aBLACK UNIVERSAL RECYCLING SYMBOL
aRECYCLED PAPER SYMBOL aPARTIALLY-RECYCLED PAPER SYMBOL aPERMANENT PAPER SIGN aWHEELCHAIR SYMBOL
aDIE FACE-1 bFACE-2 bFACE-3 bFACE-4 bFACE-5 bFACE-6 aWHITE CIRCLE WITH DOT RIGHT dTWO DOTS aBLACK
CIRCLE WITH WHITE DOT RIGHT dTWO WHITE DOTS aMONOGRAM FOR YANG cYIN aDIGRAM FOR GREATER YANG
cLESSER YIN dYANG cGREATER YIN aWHITE FLAG aBLACK FLAG aHAMMER AND PICK aANCHOR aCROSSED SWORDS
aSTAFF OF AESCULAPIUS aSCALES aALEMBIC aFLOWER aGEAR aSTAFF OF HERMES aATOM SYMBOL aFLEUR-DE-LIS
aOUTLINED WHITE STAR aTHREE LINES CONVERGING RIGHT dLEFT aWARNING SIGN aHIGH VOLTAGE SIGN aDOUBLED
FEMALE SIGN bMALE SIGN aINTERLOCKED FEMALE AND MALE SIGN aMALE AND FEMALE SIGN bWITH STROKE SIGN
dAND MALE AND FEMALE SIGN aVERTICAL MALE WITH STROKE SIGN aHORIZONTAL MALE WITH STROKE SIGN aMEDIUM
WHITE CIRCLE bBLACK CIRCLE bSMALL WHITE CIRCLE aMARRIAGE SYMBOL aDIVORCE SYMBOL aUNMARRIED
PARTNERSHIP SYMBOL aCOFFIN aFUNERAL URN aNEUTER aCERES aPALLAS aJUNO aVESTA aCHIRON aBLACK MOON
LILITH aSEXTILE aSEMISEXTILE aQUINCUNX aSESQUIQUADRATE aSOCCER BALL aBASEBALL aSQUARED KEY aWHITE
DRAUGHTS MAN cKING aBLACK DRAUGHTS MAN cKING aSNOWMAN WITHOUT SNOW aSUN BEHIND CLOUD aRAIN aBLACK
SNOWMAN aTHUNDER CLOUD AND RAIN aTURNED WHITE SHOGI PIECE bBLACK SHOGI PIECE aWHITE DIAMOND IN
SQUARE aCROSSING LANES aDISABLED CAR aOPHIUCHUS aPICK aCAR SLIDING aHELMET WITH WHITE CROSS
aCIRCLED CROSSING LANES aCHAINS aNO ENTRY aALTERNATE ONE-WAY LEFT WAY TRAFFIC aBLACK TWO-WAY LEFT
WAY TRAFFIC aWHITE TWO-WAY LEFT WAY TRAFFIC aBLACK LEFT LANE MERGE aWHITE LEFT LANE MERGE aDRIVE
SLOW SIGN aHEAVY WHITE DOWN-POINTING TRIANGLE aLEFT CLOSED ENTRY aSQUARED SALTIRE aFALLING DIAGONAL
IN WHITE CIRCLE IN BLACK SQUARE aBLACK TRUCK aRESTRICTED LEFT ENTRY-1 cENTRY-2 aASTRONOMICAL SYMBOL
FOR URANUS aHEAVY CIRCLE WITH STROKE AND TWO DOTS ABOVE aPENTAGRAM aRIGHT-HANDED INTERLACED
PENTAGRAM aLEFT-HANDED INTERLACED PENTAGRAM aINVERTED PENTAGRAM aBLACK CROSS ON SHIELD aSHINTO
SHRINE aCHURCH aCASTLE aHISTORIC SITE aGEAR WITHOUT HUB bWITH HANDLES aMAP SYMBOL FOR LIGHTHOUSE
aMOUNTAIN aUMBRELLA ON GROUND aFOUNTAIN aFLAG IN HOLE aFERRY aSAILBOAT aSQUARE FOUR CORNERS aSKIER
aICE SKATE aPERSON WITH BALL aTENT aJAPANESE BANK SYMBOL aHEADSTONE GRAVEYARD SYMBOL aFUEL PUMP
aCUP ON BLACK SQUARE aWHITE FLAG WITH HORIZONTAL MIDDLE BLACK STRIPE aBLACK SAFETY SCISSORS aUPPER
BLADE SCISSORS aBLACK SCISSORS aLOWER BLADE SCISSORS aWHITE SCISSORS bHEAVY CHECK MARK aTELEPHONE
LOCATION SIGN aTAPE DRIVE aAIRPLANE aENVELOPE aRAISED FIST bHAND aVICTORY HAND aWRITING HAND aLOWER
RIGHT PENCIL aPENCIL aUPPER RIGHT PENCIL aWHITE NIB aBLACK NIB aCHECK MARK aHEAVY CHECK MARK
aMULTIPLICATION X aHEAVY MULTIPLICATION X aBALLOT X aHEAVY BALLOT X aOUTLINED GREEK CROSS aHEAVY
GREEK CROSS aOPEN CENTRE CROSS aHEAVY OPEN CENTRE CROSS aLATIN CROSS aSHADOWED WHITE LATIN CROSS
aOUTLINED LATIN CROSS aMALTESE CROSS aSTAR OF DAVID aFOUR TEARDROP-SPOKED ASTERISK bBALLOON-SPOKED
ASTERISK aHEAVY FOUR BALLOON-SPOKED ASTERISK aFOUR CLUB-SPOKED ASTERISK aBLACK FOUR POINTED STAR
aWHITE FOUR POINTED STAR aSPARKLES aSTRESS OUTLINED WHITE STAR aCIRCLED WHITE STAR aOPEN CENTRE
BLACK STAR aBLACK CENTRE WHITE STAR aOUTLINED BLACK STAR aHEAVY OUTLINED BLACK STAR aPINWHEEL STAR
aSHADOWED WHITE STAR aHEAVY ASTERISK aOPEN CENTRE ASTERISK aEIGHT SPOKED ASTERISK bPOINTED BLACK
STAR cPINWHEEL STAR aSIX POINTED BLACK STAR aEIGHT POINTED RECTILINEAR BLACK STAR aHEAVY EIGHT
POINTED RECTILINEAR BLACK STAR aTWELVE POINTED BLACK STAR aSIXTEEN POINTED ASTERISK
aTEARDROP-SPOKED ASTERISK aOPEN CENTRE TEARDROP-SPOKED ASTERISK aHEAVY TEARDROP-SPOKED ASTERISK
aSIX PETALLED BLACK AND WHITE FLORETTE aBLACK FLORETTE aWHITE FLORETTE aEIGHT PETALLED OUTLINED
BLACK FLORETTE aCIRCLED OPEN CENTRE EIGHT POINTED STAR aHEAVY TEARDROP-SPOKED PINWHEEL ASTERISK
aSNOWFLAKE aTIGHT TRIFOLIATE SNOWFLAKE aHEAVY CHEVRON SNOWFLAKE aSPARKLE aHEAVY SPARKLE
aBALLOON-SPOKED ASTERISK aEIGHT TEARDROP-SPOKED PROPELLER ASTERISK aHEAVY EIGHT TEARDROP-SPOKED
PROPELLER ASTERISK aCROSS MARK aSHADOWED WHITE CIRCLE aNEGATIVE SQUARED CROSS MARK aLOWER RIGHT
DROP-SHADOWED WHITE SQUARE aUPPER RIGHT DROP-SHADOWED WHITE SQUARE aLOWER RIGHT SHADOWED WHITE
SQUARE aUPPER RIGHT SHADOWED WHITE SQUARE aBLACK QUESTION MARK ORNAMENT aWHITE QUESTION MARK
ORNAMENT bEXCLAMATION MARK ORNAMENT aBLACK DIAMOND MINUS WHITE X aHEAVY EXCLAMATION MARK SYMBOL
aLIGHT VERTICAL BAR aMEDIUM VERTICAL BAR aHEAVY VERTICAL BAR bSINGLE TURNED COMMA QUOTATION MARK
ORNAMENT cCOMMA QUOTATION MARK ORNAMENT bDOUBLE TURNED COMMA QUOTATION MARK ORNAMENT cCOMMA
QUOTATION MARK ORNAMENT bLOW SINGLE COMMA QUOTATION MARK ORNAMENT cDOUBLE COMMA QUOTATION MARK
ORNAMENT aCURVED STEM PARAGRAPH SIGN ORNAMENT aHEAVY EXCLAMATION MARK ORNAMENT bHEART EXCLAMATION
MARK ORNAMENT bBLACK HEART aROTATED HEAVY BLACK HEART BULLET aFLORAL HEART aROTATED FLORAL HEART
BULLET aMEDIUM LEFT PARENTHESIS ORNAMENT bRIGHT PARENTHESIS ORNAMENT bFLATTENED LEFT PARENTHESIS
ORNAMENT cRIGHT PARENTHESIS ORNAMENT bLEFT-POINTING ANGLE BRACKET ORNAMENT bRIGHT-POINTING ANGLE
BRACKET ORNAMENT aHEAVY LEFT-POINTING ANGLE QUOTATION MARK ORNAMENT bRIGHT-POINTING ANGLE QUOTATION
MARK ORNAMENT bLEFT-POINTING ANGLE BRACKET ORNAMENT bRIGHT-POINTING ANGLE BRACKET ORNAMENT aLIGHT
LEFT TORTOISE SHELL BRACKET ORNAMENT bRIGHT TORTOISE SHELL BRACKET ORNAMENT aMEDIUM LEFT CURLY
BRACKET ORNAMENT bRIGHT CURLY BRACKET ORNAMENT aDINGBAT NEGATIVE CIRCLED DIGIT ONE eTWO eTHREE
eFOUR eFIVE eSIX eSEVEN eEIGHT eNINE dNUMBER TEN bCIRCLED SANS-SERIF DIGIT ONE eTWO eTHREE eFOUR
eFIVE eSIX eSEVEN eEIGHT eNINE dNUMBER TEN bNEGATIVE CIRCLED SANS-SERIF DIGIT ONE fTWO fTHREE fFOUR
fFIVE fSIX fSEVEN fEIGHT fNINE eNUMBER TEN aHEAVY WIDE-HEADED RIGHTWARDS ARROW bPLUS SIGN bMINUS
SIGN bDIVISION SIGN bSOUTH EAST ARROW bRIGHTWARDS ARROW bNORTH EAST ARROW aDRAFTING POINT
RIGHTWARDS ARROW aHEAVY ROUND-TIPPED RIGHTWARDS ARROW aTRIANGLE-HEADED RIGHTWARDS ARROW aHEAVY
TRIANGLE-HEADED RIGHTWARDS ARROW aDASHED TRIANGLE-HEADED RIGHTWARDS ARROW aHEAVY DASHED
TRIANGLE-HEADED RIGHTWARDS ARROW aBLACK RIGHTWARDS ARROW aTHREE-D TOP-LIGHTED RIGHTWARDS ARROWHEAD
bBOTTOM-LIGHTED RIGHTWARDS ARROWHEAD aBLACK RIGHTWARDS ARROWHEAD aHEAVY BLACK CURVED DOWNWARDS AND
RIGHTWARDS ARROW dUPWARDS AND RIGHTWARDS ARROW aSQUAT BLACK RIGHTWARDS ARROW aHEAVY CONCAVE-POINTED
BLACK RIGHTWARDS ARROW aRIGHT-SHADED WHITE RIGHTWARDS ARROW aLEFT-SHADED WHITE RIGHTWARDS ARROW
aBACK-TILTED SHADOWED WHITE RIGHTWARDS ARROW aFRONT-TILTED SHADOWED WHITE RIGHTWARDS ARROW aHEAVY
LOWER RIGHT-SHADOWED WHITE RIGHTWARDS ARROW bUPPER RIGHT-SHADOWED WHITE RIGHTWARDS ARROW aNOTCHED
LOWER RIGHT-SHADOWED WHITE RIGHTWARDS ARROW aCURLY LOOP aNOTCHED UPPER RIGHT-SHADOWED WHITE
RIGHTWARDS ARROW aCIRCLED HEAVY WHITE RIGHTWARDS ARROW aWHITE-FEATHERED RIGHTWARDS ARROW
aBLACK-FEATHERED SOUTH EAST ARROW bRIGHTWARDS ARROW bNORTH EAST ARROW aHEAVY BLACK-FEATHERED SOUTH
EAST ARROW"

private def signNames2 : String := "
=27B8 aHEAVY BLACK-FEATHERED RIGHTWARDS ARROW cNORTH EAST ARROW aTEARDROP-BARBED RIGHTWARDS ARROW
aHEAVY TEARDROP-SHANKED RIGHTWARDS ARROW aWEDGE-TAILED RIGHTWARDS ARROW aHEAVY WEDGE-TAILED
RIGHTWARDS ARROW aOPEN-OUTLINED RIGHTWARDS ARROW aDOUBLE CURLY LOOP aTHREE DIMENSIONAL ANGLE aWHITE
TRIANGLE CONTAINING SMALL WHITE TRIANGLE aPERPENDICULAR aOPEN SUBSET bSUPERSET aLEFT S-SHAPED BAG
DELIMITER aRIGHT S-SHAPED BAG DELIMITER aOR WITH DOT INSIDE aREVERSE SOLIDUS PRECEDING SUBSET
aSUPERSET PRECEDING SOLIDUS aVERTICAL BAR WITH HORIZONTAL STROKE aMATHEMATICAL RISING DIAGONAL
aLONG DIVISION aMATHEMATICAL FALLING DIAGONAL aSQUARED LOGICAL AND cOR aWHITE DIAMOND WITH CENTRED
DOT aAND WITH DOT aELEMENT OF OPENING UPWARDS aLOWER RIGHT CORNER WITH DOT aUPPER LEFT CORNER WITH
DOT aLEFT OUTER JOIN aRIGHT OUTER JOIN aFULL OUTER JOIN aLARGE UP TACK bDOWN TACK aLEFT AND RIGHT
DOUBLE TURNSTILE dTACK bMULTIMAP aLONG RIGHT TACK bLEFT TACK aUP TACK WITH CIRCLE ABOVE aLOZENGE
DIVIDED BY HORIZONTAL RULE aWHITE CONCAVE-SIDED DIAMOND dWITH LEFTWARDS TICK eRIGHTWARDS TICK
bSQUARE WITH LEFTWARDS TICK dRIGHTWARDS TICK aMATHEMATICAL LEFT WHITE SQUARE BRACKET bRIGHT WHITE
SQUARE BRACKET bLEFT ANGLE BRACKET bRIGHT ANGLE BRACKET bLEFT DOUBLE ANGLE BRACKET bRIGHT DOUBLE
ANGLE BRACKET bLEFT WHITE TORTOISE SHELL BRACKET bRIGHT WHITE TORTOISE SHELL BRACKET bLEFT
FLATTENED PARENTHESIS bRIGHT FLATTENED PARENTHESIS aUPWARDS QUADRUPLE ARROW aDOWNWARDS QUADRUPLE
ARROW aANTICLOCKWISE GAPPED CIRCLE ARROW aCLOCKWISE GAPPED CIRCLE ARROW aRIGHT ARROW WITH CIRCLED
PLUS aLONG LEFTWARDS ARROW bRIGHTWARDS ARROW bLEFT RIGHT ARROW bLEFTWARDS DOUBLE ARROW bRIGHTWARDS
DOUBLE ARROW bLEFT RIGHT DOUBLE ARROW bLEFTWARDS ARROW FROM BAR bRIGHTWARDS ARROW FROM BAR
bLEFTWARDS DOUBLE ARROW FROM BAR bRIGHTWARDS DOUBLE ARROW FROM BAR cSQUIGGLE ARROW aBRAILLE PATTERN
BLANK cDOTS-1 cDOTS-2 cDOTS-12 cDOTS-3 cDOTS-13 cDOTS-23 cDOTS-123 cDOTS-4 cDOTS-14 cDOTS-24
cDOTS-124 cDOTS-34 cDOTS-134 cDOTS-234 cDOTS-1234 cDOTS-5 cDOTS-15 cDOTS-25 cDOTS-125 cDOTS-35
cDOTS-135 cDOTS-235 cDOTS-1235 cDOTS-45 cDOTS-145 cDOTS-245 cDOTS-1245 cDOTS-345 cDOTS-1345
cDOTS-2345 cDOTS-12345 cDOTS-6 cDOTS-16 cDOTS-26 cDOTS-126 cDOTS-36 cDOTS-136 cDOTS-236 cDOTS-1236
cDOTS-46 cDOTS-146 cDOTS-246 cDOTS-1246 cDOTS-346 cDOTS-1346 cDOTS-2346 cDOTS-12346 cDOTS-56
cDOTS-156 cDOTS-256 cDOTS-1256 cDOTS-356 cDOTS-1356 cDOTS-2356 cDOTS-12356 cDOTS-456 cDOTS-1456
cDOTS-2456 cDOTS-12456 cDOTS-3456 cDOTS-13456 cDOTS-23456 cDOTS-123456 cDOTS-7 cDOTS-17 cDOTS-27
cDOTS-127 cDOTS-37 cDOTS-137 cDOTS-237 cDOTS-1237 cDOTS-47 cDOTS-147 cDOTS-247 cDOTS-1247 cDOTS-347
cDOTS-1347 cDOTS-2347 cDOTS-12347 cDOTS-57 cDOTS-157 cDOTS-257 cDOTS-1257 cDOTS-357 cDOTS-1357
cDOTS-2357 cDOTS-12357 cDOTS-457 cDOTS-1457 cDOTS-2457 cDOTS-12457 cDOTS-3457 cDOTS-13457
cDOTS-23457 cDOTS-123457 cDOTS-67 cDOTS-167 cDOTS-267 cDOTS-1267 cDOTS-367 cDOTS-1367 cDOTS-2367
cDOTS-12367 cDOTS-467 cDOTS-1467 cDOTS-2467 cDOTS-12467 cDOTS-3467 cDOTS-13467 cDOTS-23467
cDOTS-123467 cDOTS-567 cDOTS-1567 cDOTS-2567 cDOTS-12567 cDOTS-3567 cDOTS-13567 cDOTS-23567
cDOTS-123567 cDOTS-4567 cDOTS-14567 cDOTS-24567 cDOTS-124567 cDOTS-34567 cDOTS-134567 cDOTS-234567
cDOTS-1234567 cDOTS-8 cDOTS-18 cDOTS-28 cDOTS-128 cDOTS-38 cDOTS-138 cDOTS-238 cDOTS-1238 cDOTS-48
cDOTS-148 cDOTS-248 cDOTS-1248 cDOTS-348 cDOTS-1348 cDOTS-2348 cDOTS-12348 cDOTS-58 cDOTS-158
cDOTS-258 cDOTS-1258 cDOTS-358 cDOTS-1358 cDOTS-2358 cDOTS-12358 cDOTS-458 cDOTS-1458 cDOTS-2458
cDOTS-12458 cDOTS-3458 cDOTS-13458 cDOTS-23458 cDOTS-123458 cDOTS-68 cDOTS-168 cDOTS-268 cDOTS-1268
cDOTS-368 cDOTS-1368 cDOTS-2368 cDOTS-12368 cDOTS-468 cDOTS-1468 cDOTS-2468 cDOTS-12468 cDOTS-3468
cDOTS-13468 cDOTS-23468 cDOTS-123468 cDOTS-568 cDOTS-1568 cDOTS-2568 cDOTS-12568 cDOTS-3568
cDOTS-13568 cDOTS-23568 cDOTS-123568 cDOTS-4568 cDOTS-14568 cDOTS-24568 cDOTS-124568 cDOTS-34568
cDOTS-134568 cDOTS-234568 cDOTS-1234568 cDOTS-78 cDOTS-178 cDOTS-278 cDOTS-1278 cDOTS-378
cDOTS-1378 cDOTS-2378 cDOTS-12378 cDOTS-478 cDOTS-1478 cDOTS-2478 cDOTS-12478 cDOTS-3478
cDOTS-13478 cDOTS-23478 cDOTS-123478 cDOTS-578 cDOTS-1578 cDOTS-2578 cDOTS-12578 cDOTS-3578
cDOTS-13578 cDOTS-23578 cDOTS-123578 cDOTS-4578 cDOTS-14578 cDOTS-24578 cDOTS-124578 cDOTS-34578
cDOTS-134578 cDOTS-234578 cDOTS-1234578 cDOTS-678 cDOTS-1678 cDOTS-2678 cDOTS-12678 cDOTS-3678
cDOTS-13678 cDOTS-23678 cDOTS-123678 cDOTS-4678 cDOTS-14678 cDOTS-24678 cDOTS-124678 cDOTS-34678
cDOTS-134678 cDOTS-234678 cDOTS-1234678 cDOTS-5678 cDOTS-15678 cDOTS-25678 cDOTS-125678 cDOTS-35678
cDOTS-135678 cDOTS-235678 cDOTS-1235678 cDOTS-45678 cDOTS-145678 cDOTS-245678 cDOTS-1245678
cDOTS-345678 cDOTS-1345678 cDOTS-2345678 cDOTS-12345678 aRIGHTWARDS TWO-HEADED ARROW WITH VERTICAL
STROKE eDOUBLE VERTICAL STROKE aLEFTWARDS DOUBLE ARROW WITH VERTICAL STROKE aRIGHTWARDS DOUBLE
ARROW WITH VERTICAL STROKE aLEFT RIGHT DOUBLE ARROW WITH VERTICAL STROKE aRIGHTWARDS TWO-HEADED
ARROW FROM BAR aLEFTWARDS DOUBLE ARROW FROM BAR aRIGHTWARDS DOUBLE ARROW FROM BAR aDOWNWARDS ARROW
WITH HORIZONTAL STROKE aUPWARDS ARROW WITH HORIZONTAL STROKE bTRIPLE ARROW aDOWNWARDS TRIPLE ARROW
aLEFTWARDS DOUBLE DASH ARROW aRIGHTWARDS DOUBLE DASH ARROW aLEFTWARDS TRIPLE DASH ARROW aRIGHTWARDS
TRIPLE DASH ARROW bTWO-HEADED TRIPLE DASH ARROW bARROW WITH DOTTED STEM aUPWARDS ARROW TO BAR
aDOWNWARDS ARROW TO BAR aRIGHTWARDS ARROW WITH TAIL WITH VERTICAL STROKE fDOUBLE VERTICAL STROKE
bTWO-HEADED ARROW WITH TAIL fWITH VERTICAL STROKE gDOUBLE VERTICAL STROKE aLEFTWARDS ARROW-TAIL
aRIGHTWARDS ARROW-TAIL aLEFTWARDS DOUBLE ARROW-TAIL aRIGHTWARDS DOUBLE ARROW-TAIL aLEFTWARDS ARROW
TO BLACK DIAMOND aRIGHTWARDS ARROW TO BLACK DIAMOND aLEFTWARDS ARROW FROM BAR TO BLACK DIAMOND
aRIGHTWARDS ARROW FROM BAR TO BLACK DIAMOND aNORTH WEST AND SOUTH EAST ARROW bEAST AND SOUTH WEST
ARROW bWEST ARROW WITH HOOK bEAST ARROW WITH HOOK aSOUTH EAST ARROW WITH HOOK bWEST ARROW WITH HOOK
aNORTH WEST ARROW AND NORTH EAST ARROW bEAST ARROW AND SOUTH EAST ARROW aSOUTH EAST ARROW AND SOUTH
WEST ARROW bWEST ARROW AND NORTH WEST ARROW aRISING DIAGONAL CROSSING FALLING DIAGONAL aFALLING
DIAGONAL CROSSING RISING DIAGONAL aSOUTH EAST ARROW CROSSING NORTH EAST ARROW aNORTH EAST ARROW
CROSSING SOUTH EAST ARROW aFALLING DIAGONAL CROSSING NORTH EAST ARROW aRISING DIAGONAL CROSSING
SOUTH EAST ARROW aNORTH EAST ARROW CROSSING NORTH WEST ARROW bWEST ARROW CROSSING NORTH EAST ARROW
aWAVE ARROW POINTING DIRECTLY RIGHT aARROW POINTING RIGHTWARDS THEN CURVING UPWARDS fDOWNWARDS
cDOWNWARDS THEN CURVING LEFTWARDS fRIGHTWARDS aRIGHT-SIDE ARC CLOCKWISE ARROW aLEFT-SIDE ARC
ANTICLOCKWISE ARROW aTOP ARC ANTICLOCKWISE ARROW aBOTTOM ARC ANTICLOCKWISE ARROW aTOP ARC CLOCKWISE
ARROW WITH MINUS cANTICLOCKWISE ARROW WITH PLUS aLOWER RIGHT SEMICIRCULAR CLOCKWISE ARROW bLEFT
SEMICIRCULAR ANTICLOCKWISE ARROW aANTICLOCKWISE CLOSED CIRCLE ARROW aCLOCKWISE CLOSED CIRCLE ARROW
aRIGHTWARDS ARROW ABOVE SHORT LEFTWARDS ARROW aLEFTWARDS ARROW ABOVE SHORT RIGHTWARDS ARROW aSHORT
RIGHTWARDS ARROW ABOVE LEFTWARDS ARROW aRIGHTWARDS ARROW WITH PLUS BELOW aLEFTWARDS ARROW WITH PLUS
BELOW aRIGHTWARDS ARROW THROUGH X aLEFT RIGHT ARROW THROUGH SMALL CIRCLE aUPWARDS TWO-HEADED ARROW
FROM SMALL CIRCLE aLEFT BARB UP RIGHT BARB DOWN HARPOON cDOWN RIGHT BARB UP HARPOON aUP BARB RIGHT
DOWN BARB LEFT HARPOON cLEFT DOWN BARB RIGHT HARPOON aLEFT BARB UP RIGHT BARB UP HARPOON aUP BARB
RIGHT DOWN BARB RIGHT HARPOON aLEFT BARB DOWN RIGHT BARB DOWN HARPOON aUP BARB LEFT DOWN BARB LEFT
HARPOON aLEFTWARDS HARPOON WITH BARB UP TO BAR aRIGHTWARDS HARPOON WITH BARB UP TO BAR aUPWARDS
HARPOON WITH BARB RIGHT TO BAR aDOWNWARDS HARPOON WITH BARB RIGHT TO BAR aLEFTWARDS HARPOON WITH
BARB DOWN TO BAR aRIGHTWARDS HARPOON WITH BARB DOWN TO BAR aUPWARDS HARPOON WITH BARB LEFT TO BAR
aDOWNWARDS HARPOON WITH BARB LEFT TO BAR aLEFTWARDS HARPOON WITH BARB UP FROM BAR aRIGHTWARDS
HARPOON WITH BARB UP FROM BAR aUPWARDS HARPOON WITH BARB RIGHT FROM BAR aDOWNWARDS HARPOON WITH
BARB RIGHT FROM BAR aLEFTWARDS HARPOON WITH BARB DOWN FROM BAR aRIGHTWARDS HARPOON WITH BARB DOWN
FROM BAR aUPWARDS HARPOON WITH BARB LEFT FROM BAR aDOWNWARDS HARPOON WITH BARB LEFT FROM BAR
aLEFTWARDS HARPOON WITH BARB UP ABOVE LEFTWARDS HARPOON WITH BARB DOWN aUPWARDS HARPOON WITH BARB
LEFT BESIDE UPWARDS HARPOON WITH BARB RIGHT aRIGHTWARDS HARPOON WITH BARB UP ABOVE RIGHTWARDS
HARPOON WITH BARB DOWN aDOWNWARDS HARPOON WITH BARB LEFT BESIDE DOWNWARDS HARPOON WITH BARB RIGHT
aLEFTWARDS HARPOON WITH BARB UP ABOVE RIGHTWARDS HARPOON WITH BARB UP eDOWN ABOVE RIGHTWARDS
HARPOON WITH BARB DOWN aRIGHTWARDS HARPOON WITH BARB UP ABOVE LEFTWARDS HARPOON WITH BARB UP eDOWN
ABOVE LEFTWARDS HARPOON WITH BARB DOWN aLEFTWARDS HARPOON WITH BARB UP ABOVE LONG DASH eDOWN BELOW
LONG DASH aRIGHTWARDS HARPOON WITH BARB UP ABOVE LONG DASH eDOWN BELOW LONG DASH aUPWARDS HARPOON
WITH BARB LEFT BESIDE DOWNWARDS HARPOON WITH BARB RIGHT aDOWNWARDS HARPOON WITH BARB LEFT BESIDE
UPWARDS HARPOON WITH BARB RIGHT"

private def signNames3 : String := "
=2970 aRIGHT DOUBLE ARROW WITH ROUNDED HEAD aEQUALS SIGN ABOVE RIGHTWARDS ARROW aTILDE OPERATOR
ABOVE RIGHTWARDS ARROW aLEFTWARDS ARROW ABOVE TILDE OPERATOR aRIGHTWARDS ARROW ABOVE TILDE OPERATOR
dALMOST EQUAL TO aLESS-THAN ABOVE LEFTWARDS ARROW aLEFTWARDS ARROW THROUGH LESS-THAN aGREATER-THAN
ABOVE RIGHTWARDS ARROW aSUBSET ABOVE RIGHTWARDS ARROW aLEFTWARDS ARROW THROUGH SUBSET aSUPERSET
ABOVE LEFTWARDS ARROW aLEFT FISH TAIL aRIGHT FISH TAIL aUP FISH TAIL aDOWN FISH TAIL aTRIPLE
VERTICAL BAR DELIMITER aZ NOTATION SPOT cTYPE COLON aLEFT WHITE CURLY BRACKET aRIGHT WHITE CURLY
BRACKET aLEFT WHITE PARENTHESIS aRIGHT WHITE PARENTHESIS aZ NOTATION LEFT IMAGE BRACKET cRIGHT
IMAGE BRACKET cLEFT BINDING BRACKET cRIGHT BINDING BRACKET aLEFT SQUARE BRACKET WITH UNDERBAR
aRIGHT SQUARE BRACKET WITH UNDERBAR aLEFT SQUARE BRACKET WITH TICK IN TOP CORNER aRIGHT SQUARE
BRACKET WITH TICK IN BOTTOM CORNER aLEFT SQUARE BRACKET WITH TICK IN BOTTOM CORNER aRIGHT SQUARE
BRACKET WITH TICK IN TOP CORNER aLEFT ANGLE BRACKET WITH DOT aRIGHT ANGLE BRACKET WITH DOT aLEFT
ARC LESS-THAN BRACKET aRIGHT ARC GREATER-THAN BRACKET aDOUBLE LEFT ARC GREATER-THAN BRACKET bRIGHT
ARC LESS-THAN BRACKET aLEFT BLACK TORTOISE SHELL BRACKET aRIGHT BLACK TORTOISE SHELL BRACKET
aDOTTED FENCE aVERTICAL ZIGZAG LINE aMEASURED ANGLE OPENING LEFT aRIGHT ANGLE VARIANT WITH SQUARE
aMEASURED RIGHT ANGLE WITH DOT aANGLE WITH S INSIDE aACUTE ANGLE aSPHERICAL ANGLE OPENING LEFT dUP
aTURNED ANGLE aREVERSED ANGLE aANGLE WITH UNDERBAR aREVERSED ANGLE WITH UNDERBAR aOBLIQUE ANGLE
OPENING UP dDOWN aMEASURED ANGLE WITH OPEN ARM ENDING IN ARROW POINTING UP AND RIGHT lLEFT jDOWN
AND RIGHT lLEFT jRIGHT AND UP jLEFT AND UP jRIGHT AND DOWN jLEFT AND DOWN aREVERSED EMPTY SET
aEMPTY SET WITH OVERBAR dSMALL CIRCLE ABOVE dRIGHT ARROW ABOVE dLEFT ARROW ABOVE aCIRCLE WITH
HORIZONTAL BAR aCIRCLED VERTICAL BAR bPARALLEL bREVERSE SOLIDUS bPERPENDICULAR aCIRCLE DIVIDED BY
HORIZONTAL BAR AND TOP HALF DIVIDED BY VERTICAL BAR bWITH SUPERIMPOSED X aCIRCLED
ANTICLOCKWISE-ROTATED DIVISION SIGN aUP ARROW THROUGH CIRCLE aCIRCLED WHITE BULLET bBULLET
bLESS-THAN bGREATER-THAN aCIRCLE WITH SMALL CIRCLE TO THE RIGHT cTWO HORIZONTAL STROKES TO THE
RIGHT aSQUARED RISING DIAGONAL SLASH bFALLING DIAGONAL SLASH bASTERISK bSMALL CIRCLE bSQUARE aTWO
JOINED SQUARES aTRIANGLE WITH DOT ABOVE cUNDERBAR aS IN TRIANGLE aTRIANGLE WITH SERIFS AT BOTTOM
aRIGHT TRIANGLE ABOVE LEFT TRIANGLE aLEFT TRIANGLE BESIDE VERTICAL BAR aVERTICAL BAR BESIDE RIGHT
TRIANGLE aBOWTIE WITH LEFT HALF BLACK cRIGHT HALF BLACK aBLACK BOWTIE aTIMES WITH LEFT HALF BLACK
cRIGHT HALF BLACK aWHITE HOURGLASS aBLACK HOURGLASS aLEFT WIGGLY FENCE aRIGHT WIGGLY FENCE aLEFT
DOUBLE WIGGLY FENCE aRIGHT DOUBLE WIGGLY FENCE aINCOMPLETE INFINITY aTIE OVER INFINITY aINFINITY
NEGATED WITH VERTICAL BAR aDOUBLE-ENDED MULTIMAP aSQUARE WITH CONTOURED OUTLINE aINCREASES AS
aSHUFFLE PRODUCT aEQUALS SIGN AND SLANTED PARALLEL fWITH TILDE ABOVE aIDENTICAL TO AND SLANTED
PARALLEL aGLEICH STARK aTHERMODYNAMIC aDOWN-POINTING TRIANGLE WITH LEFT HALF BLACK dRIGHT HALF
BLACK aBLACK DIAMOND WITH DOWN ARROW bLOZENGE aWHITE CIRCLE WITH DOWN ARROW aBLACK CIRCLE WITH DOWN
ARROW aERROR-BARRED WHITE SQUARE bBLACK SQUARE bWHITE DIAMOND bBLACK DIAMOND bWHITE CIRCLE bBLACK
CIRCLE aRULE-DELAYED aREVERSE SOLIDUS OPERATOR aSOLIDUS WITH OVERBAR aREVERSE SOLIDUS WITH
HORIZONTAL STROKE aBIG SOLIDUS bREVERSE SOLIDUS aDOUBLE PLUS aTRIPLE PLUS aLEFT-POINTING CURVED
ANGLE BRACKET aRIGHT-POINTING CURVED ANGLE BRACKET aTINY aMINY aN-ARY CIRCLED DOT OPERATOR cPLUS
OPERATOR cTIMES OPERATOR bUNION OPERATOR WITH DOT ePLUS bSQUARE INTERSECTION OPERATOR cUNION
OPERATOR aTWO LOGICAL AND OPERATOR cOR OPERATOR aN-ARY TIMES OPERATOR aMODULO TWO SUM aSUMMATION
WITH INTEGRAL aQUADRUPLE INTEGRAL OPERATOR aFINITE PART INTEGRAL aINTEGRAL WITH DOUBLE STROKE
bAVERAGE WITH SLASH aCIRCULATION FUNCTION aANTICLOCKWISE INTEGRATION aLINE INTEGRATION WITH
RECTANGULAR PATH AROUND POLE dSEMICIRCULAR PATH AROUND POLE cNOT INCLUDING THE POLE aINTEGRAL
AROUND A POINT OPERATOR aQUATERNION INTEGRAL OPERATOR aINTEGRAL WITH LEFTWARDS ARROW WITH HOOK
cTIMES SIGN cINTERSECTION cUNION cOVERBAR cUNDERBAR aJOIN aLARGE LEFT TRIANGLE OPERATOR aZ NOTATION
SCHEMA COMPOSITION dPIPING dPROJECTION aPLUS SIGN WITH SMALL CIRCLE ABOVE dCIRCUMFLEX ACCENT ABOVE
dTILDE ABOVE dDOT BELOW dTILDE BELOW dSUBSCRIPT TWO dBLACK TRIANGLE aMINUS SIGN WITH COMMA ABOVE
dDOT BELOW dFALLING DOTS dRISING DOTS aPLUS SIGN IN LEFT HALF CIRCLE dRIGHT HALF CIRCLE aVECTOR OR
CROSS PRODUCT aMULTIPLICATION SIGN WITH DOT ABOVE dUNDERBAR aSEMIDIRECT PRODUCT WITH BOTTOM CLOSED
aSMASH PRODUCT aMULTIPLICATION SIGN IN LEFT HALF CIRCLE dRIGHT HALF CIRCLE aCIRCLED MULTIPLICATION
SIGN WITH CIRCUMFLEX ACCENT aMULTIPLICATION SIGN IN DOUBLE CIRCLE aCIRCLED DIVISION SIGN aPLUS SIGN
IN TRIANGLE aMINUS SIGN IN TRIANGLE aMULTIPLICATION SIGN IN TRIANGLE aINTERIOR PRODUCT aRIGHTHAND
INTERIOR PRODUCT aZ NOTATION RELATIONAL COMPOSITION aAMALGAMATION OR COPRODUCT aINTERSECTION WITH
DOT aUNION WITH MINUS SIGN cOVERBAR aINTERSECTION WITH OVERBAR cLOGICAL AND aUNION WITH LOGICAL OR
bABOVE INTERSECTION aINTERSECTION ABOVE UNION aUNION ABOVE BAR ABOVE INTERSECTION aINTERSECTION
ABOVE BAR ABOVE UNION aUNION BESIDE AND JOINED WITH UNION aINTERSECTION BESIDE AND JOINED WITH
INTERSECTION aCLOSED UNION WITH SERIFS bINTERSECTION WITH SERIFS aDOUBLE SQUARE INTERSECTION cUNION
aCLOSED UNION WITH SERIFS AND SMASH PRODUCT aLOGICAL AND WITH DOT ABOVE bOR WITH DOT ABOVE aDOUBLE
LOGICAL AND cOR aTWO INTERSECTING LOGICAL AND dOR aSLOPING LARGE OR cAND aLOGICAL OR OVERLAPPING
LOGICAL AND bAND WITH MIDDLE STEM bOR WITH MIDDLE STEM bAND WITH HORIZONTAL DASH bOR WITH
HORIZONTAL DASH bAND WITH DOUBLE OVERBAR dUNDERBAR dDOUBLE UNDERBAR aSMALL VEE WITH UNDERBAR
aLOGICAL OR WITH DOUBLE OVERBAR eUNDERBAR aZ NOTATION DOMAIN ANTIRESTRICTION cRANGE ANTIRESTRICTION
aEQUALS SIGN WITH DOT BELOW aIDENTICAL WITH DOT ABOVE aTRIPLE HORIZONTAL BAR WITH DOUBLE VERTICAL
STROKE eTRIPLE VERTICAL STROKE aTILDE OPERATOR WITH DOT ABOVE dRISING DOTS aSIMILAR MINUS SIMILAR
aCONGRUENT WITH DOT ABOVE aEQUALS WITH ASTERISK aALMOST EQUAL TO WITH CIRCUMFLEX ACCENT
aAPPROXIMATELY EQUAL OR EQUAL TO aEQUALS SIGN ABOVE PLUS SIGN aPLUS SIGN ABOVE EQUALS SIGN aEQUALS
SIGN ABOVE TILDE OPERATOR aDOUBLE COLON EQUAL aTWO CONSECUTIVE EQUALS SIGNS aTHREE CONSECUTIVE
EQUALS SIGNS aEQUALS SIGN WITH TWO DOTS ABOVE AND TWO DOTS BELOW aEQUIVALENT WITH FOUR DOTS ABOVE
aLESS-THAN WITH CIRCLE INSIDE aGREATER-THAN WITH CIRCLE INSIDE aLESS-THAN WITH QUESTION MARK ABOVE
aGREATER-THAN WITH QUESTION MARK ABOVE aLESS-THAN OR SLANTED EQUAL TO aGREATER-THAN OR SLANTED
EQUAL TO aLESS-THAN OR SLANTED EQUAL TO WITH DOT INSIDE aGREATER-THAN OR SLANTED EQUAL TO WITH DOT
INSIDE aLESS-THAN OR SLANTED EQUAL TO WITH DOT ABOVE aGREATER-THAN OR SLANTED EQUAL TO WITH DOT
ABOVE aLESS-THAN OR SLANTED EQUAL TO WITH DOT ABOVE RIGHT aGREATER-THAN OR SLANTED EQUAL TO WITH
DOT ABOVE LEFT aLESS-THAN OR APPROXIMATE aGREATER-THAN OR APPROXIMATE aLESS-THAN AND SINGLE-LINE
NOT EQUAL TO aGREATER-THAN AND SINGLE-LINE NOT EQUAL TO aLESS-THAN AND NOT APPROXIMATE
aGREATER-THAN AND NOT APPROXIMATE aLESS-THAN ABOVE DOUBLE-LINE EQUAL ABOVE GREATER-THAN
aGREATER-THAN ABOVE DOUBLE-LINE EQUAL ABOVE LESS-THAN aLESS-THAN ABOVE SIMILAR OR EQUAL
aGREATER-THAN ABOVE SIMILAR OR EQUAL aLESS-THAN ABOVE SIMILAR ABOVE GREATER-THAN aGREATER-THAN
ABOVE SIMILAR ABOVE LESS-THAN aLESS-THAN ABOVE GREATER-THAN ABOVE DOUBLE-LINE EQUAL aGREATER-THAN
ABOVE LESS-THAN ABOVE DOUBLE-LINE EQUAL aLESS-THAN ABOVE SLANTED EQUAL ABOVE GREATER-THAN ABOVE
SLANTED EQUAL aGREATER-THAN ABOVE SLANTED EQUAL ABOVE LESS-THAN ABOVE SLANTED EQUAL aSLANTED EQUAL
TO OR LESS-THAN eGREATER-THAN eLESS-THAN WITH DOT INSIDE eGREATER-THAN WITH DOT INSIDE aDOUBLE-LINE
EQUAL TO OR LESS-THAN eGREATER-THAN bSLANTED EQUAL TO OR LESS-THAN fGREATER-THAN aSIMILAR OR
LESS-THAN cGREATER-THAN bABOVE LESS-THAN ABOVE EQUALS SIGN cGREATER-THAN ABOVE EQUALS SIGN aDOUBLE
NESTED LESS-THAN cGREATER-THAN cLESS-THAN WITH UNDERBAR aGREATER-THAN OVERLAPPING LESS-THAN bBESIDE
LESS-THAN aLESS-THAN CLOSED BY CURVE aGREATER-THAN CLOSED BY CURVE aLESS-THAN CLOSED BY CURVE ABOVE
SLANTED EQUAL aGREATER-THAN CLOSED BY CURVE ABOVE SLANTED EQUAL aSMALLER THAN aLARGER THAN aSMALLER
THAN OR EQUAL TO aLARGER THAN OR EQUAL TO aEQUALS SIGN WITH BUMPY ABOVE aPRECEDES ABOVE SINGLE-LINE
EQUALS SIGN"

private def signNames4 : String := "
=2AB0 aSUCCEEDS ABOVE SINGLE-LINE EQUALS SIGN aPRECEDES ABOVE SINGLE-LINE NOT EQUAL TO aSUCCEEDS
ABOVE SINGLE-LINE NOT EQUAL TO aPRECEDES ABOVE EQUALS SIGN aSUCCEEDS ABOVE EQUALS SIGN aPRECEDES
ABOVE NOT EQUAL TO aSUCCEEDS ABOVE NOT EQUAL TO aPRECEDES ABOVE ALMOST EQUAL TO aSUCCEEDS ABOVE
ALMOST EQUAL TO aPRECEDES ABOVE NOT ALMOST EQUAL TO aSUCCEEDS ABOVE NOT ALMOST EQUAL TO aDOUBLE
PRECEDES bSUCCEEDS aSUBSET WITH DOT aSUPERSET WITH DOT aSUBSET WITH PLUS SIGN BELOW aSUPERSET WITH
PLUS SIGN BELOW aSUBSET WITH MULTIPLICATION SIGN BELOW aSUPERSET WITH MULTIPLICATION SIGN BELOW
aSUBSET OF OR EQUAL TO WITH DOT ABOVE aSUPERSET OF OR EQUAL TO WITH DOT ABOVE aSUBSET OF ABOVE
EQUALS SIGN aSUPERSET OF ABOVE EQUALS SIGN aSUBSET OF ABOVE TILDE OPERATOR aSUPERSET OF ABOVE TILDE
OPERATOR aSUBSET OF ABOVE ALMOST EQUAL TO aSUPERSET OF ABOVE ALMOST EQUAL TO aSUBSET OF ABOVE NOT
EQUAL TO aSUPERSET OF ABOVE NOT EQUAL TO aSQUARE LEFT OPEN BOX OPERATOR bRIGHT OPEN BOX OPERATOR
aCLOSED SUBSET bSUPERSET bSUBSET OR EQUAL TO bSUPERSET OR EQUAL TO aSUBSET ABOVE SUPERSET aSUPERSET
ABOVE SUBSET aSUBSET ABOVE SUBSET aSUPERSET ABOVE SUPERSET bBESIDE SUBSET cAND JOINED BY DASH WITH
SUBSET aELEMENT OF OPENING DOWNWARDS aPITCHFORK WITH TEE TOP aTRANSVERSAL INTERSECTION aFORKING
aNONFORKING aSHORT LEFT TACK bDOWN TACK bUP TACK aPERPENDICULAR WITH S aVERTICAL BAR TRIPLE RIGHT
TURNSTILE aDOUBLE VERTICAL BAR LEFT TURNSTILE aVERTICAL BAR DOUBLE LEFT TURNSTILE aDOUBLE VERTICAL
BAR DOUBLE LEFT TURNSTILE aLONG DASH FROM LEFT MEMBER OF DOUBLE VERTICAL aSHORT DOWN TACK WITH
OVERBAR bUP TACK WITH UNDERBAR dABOVE SHORT DOWN TACK aDOUBLE DOWN TACK bUP TACK bSTROKE NOT SIGN
aREVERSED DOUBLE STROKE NOT SIGN aDOES NOT DIVIDE WITH REVERSED NEGATION SLASH aVERTICAL LINE WITH
CIRCLE ABOVE eBELOW aDOWN TACK WITH CIRCLE BELOW aPARALLEL WITH HORIZONTAL STROKE cTILDE OPERATOR
aTRIPLE VERTICAL BAR BINARY RELATION dWITH HORIZONTAL STROKE bCOLON OPERATOR bNESTED LESS-THAN
cGREATER-THAN aDOUBLE-LINE SLANTED LESS-THAN OR EQUAL TO cGREATER-THAN OR EQUAL TO aTRIPLE SOLIDUS
BINARY RELATION aLARGE TRIPLE VERTICAL BAR OPERATOR aDOUBLE SOLIDUS OPERATOR aWHITE VERTICAL BAR
aN-ARY WHITE VERTICAL BAR aNORTH EAST WHITE ARROW bWEST WHITE ARROW aSOUTH EAST WHITE ARROW bWEST
WHITE ARROW aLEFT RIGHT WHITE ARROW aLEFTWARDS BLACK ARROW aUPWARDS BLACK ARROW aDOWNWARDS BLACK
ARROW aNORTH EAST BLACK ARROW bWEST BLACK ARROW aSOUTH EAST BLACK ARROW bWEST BLACK ARROW aLEFT
RIGHT BLACK ARROW aUP DOWN BLACK ARROW aRIGHTWARDS ARROW WITH TIP DOWNWARDS eUPWARDS aLEFTWARDS
ARROW WITH TIP DOWNWARDS eUPWARDS aSQUARE WITH TOP HALF BLACK cBOTTOM HALF BLACK cUPPER RIGHT
DIAGONAL HALF BLACK cLOWER LEFT DIAGONAL HALF BLACK aDIAMOND WITH LEFT HALF BLACK cRIGHT HALF BLACK
cTOP HALF BLACK cBOTTOM HALF BLACK aDOTTED SQUARE aBLACK LARGE SQUARE aWHITE LARGE SQUARE aBLACK
VERY SMALL SQUARE aWHITE VERY SMALL SQUARE aBLACK PENTAGON aWHITE PENTAGON bHEXAGON aBLACK HEXAGON
aHORIZONTAL BLACK HEXAGON aBLACK LARGE CIRCLE bMEDIUM DIAMOND aWHITE MEDIUM DIAMOND aBLACK MEDIUM
LOZENGE aWHITE MEDIUM LOZENGE aBLACK SMALL DIAMOND cLOZENGE aWHITE SMALL LOZENGE aBLACK HORIZONTAL
ELLIPSE aWHITE HORIZONTAL ELLIPSE aBLACK VERTICAL ELLIPSE aWHITE VERTICAL ELLIPSE aLEFT ARROW WITH
SMALL CIRCLE aTHREE LEFTWARDS ARROWS aLEFT ARROW WITH CIRCLED PLUS aLONG LEFTWARDS SQUIGGLE ARROW
aLEFTWARDS TWO-HEADED ARROW WITH VERTICAL STROKE eDOUBLE VERTICAL STROKE dFROM BAR cTRIPLE DASH
ARROW bARROW WITH DOTTED STEM dTAIL WITH VERTICAL STROKE fDOUBLE VERTICAL STROKE bTWO-HEADED ARROW
WITH TAIL fWITH VERTICAL STROKE gDOUBLE VERTICAL STROKE bARROW THROUGH X aWAVE ARROW POINTING
DIRECTLY LEFT aEQUALS SIGN ABOVE LEFTWARDS ARROW aREVERSE TILDE OPERATOR ABOVE LEFTWARDS ARROW
aLEFTWARDS ARROW ABOVE REVERSE ALMOST EQUAL TO aRIGHTWARDS ARROW THROUGH GREATER-THAN dSUPERSET
aLEFTWARDS QUADRUPLE ARROW aRIGHTWARDS QUADRUPLE ARROW aREVERSE TILDE OPERATOR ABOVE RIGHTWARDS
ARROW aRIGHTWARDS ARROW ABOVE REVERSE ALMOST EQUAL TO aTILDE OPERATOR ABOVE LEFTWARDS ARROW
aLEFTWARDS ARROW ABOVE ALMOST EQUAL TO dREVERSE TILDE OPERATOR aRIGHTWARDS ARROW ABOVE REVERSE
TILDE OPERATOR aDOWNWARDS TRIANGLE-HEADED ZIGZAG ARROW aSHORT SLANTED NORTH ARROW bBACKSLANTED
SOUTH ARROW aWHITE MEDIUM STAR aBLACK SMALL STAR aWHITE SMALL STAR aBLACK RIGHT-POINTING PENTAGON
aWHITE RIGHT-POINTING PENTAGON aHEAVY LARGE CIRCLE bOVAL WITH OVAL INSIDE bCIRCLE WITH CIRCLE
INSIDE c bCIRCLED SALTIRE aSLANTED NORTH ARROW WITH HOOKED HEAD aBACKSLANTED SOUTH ARROW WITH
HOOKED TAIL aSLANTED NORTH ARROW WITH HORIZONTAL TAIL aBACKSLANTED SOUTH ARROW WITH HORIZONTAL TAIL
aBENT ARROW POINTING DOWNWARDS THEN NORTH EAST aSHORT BENT ARROW POINTING DOWNWARDS THEN NORTH EAST
aLEFTWARDS TRIANGLE-HEADED ARROW aUPWARDS TRIANGLE-HEADED ARROW aRIGHTWARDS TRIANGLE-HEADED ARROW
aDOWNWARDS TRIANGLE-HEADED ARROW aLEFT RIGHT TRIANGLE-HEADED ARROW aUP DOWN TRIANGLE-HEADED ARROW
aNORTH WEST TRIANGLE-HEADED ARROW bEAST TRIANGLE-HEADED ARROW aSOUTH EAST TRIANGLE-HEADED ARROW
bWEST TRIANGLE-HEADED ARROW aLEFTWARDS TRIANGLE-HEADED DASHED ARROW aUPWARDS TRIANGLE-HEADED DASHED
ARROW aRIGHTWARDS TRIANGLE-HEADED DASHED ARROW aDOWNWARDS TRIANGLE-HEADED DASHED ARROW aCLOCKWISE
TRIANGLE-HEADED OPEN CIRCLE ARROW aANTICLOCKWISE TRIANGLE-HEADED OPEN CIRCLE ARROW aLEFTWARDS
TRIANGLE-HEADED ARROW TO BAR aUPWARDS TRIANGLE-HEADED ARROW TO BAR aRIGHTWARDS TRIANGLE-HEADED
ARROW TO BAR aDOWNWARDS TRIANGLE-HEADED ARROW TO BAR =2B76 aNORTH WEST TRIANGLE-HEADED ARROW TO BAR
bEAST TRIANGLE-HEADED ARROW TO BAR aSOUTH EAST TRIANGLE-HEADED ARROW TO BAR bWEST TRIANGLE-HEADED
ARROW TO BAR aLEFTWARDS TRIANGLE-HEADED ARROW WITH DOUBLE HORIZONTAL STROKE aUPWARDS
TRIANGLE-HEADED ARROW WITH DOUBLE HORIZONTAL STROKE aRIGHTWARDS TRIANGLE-HEADED ARROW WITH DOUBLE
HORIZONTAL STROKE aDOWNWARDS TRIANGLE-HEADED ARROW WITH DOUBLE HORIZONTAL STROKE aHORIZONTAL TAB
KEY aVERTICAL TAB KEY aLEFTWARDS TRIANGLE-HEADED ARROW OVER RIGHTWARDS TRIANGLE-HEADED ARROW
aUPWARDS TRIANGLE-HEADED ARROW LEFTWARDS OF DOWNWARDS TRIANGLE-HEADED ARROW aRIGHTWARDS
TRIANGLE-HEADED ARROW OVER LEFTWARDS TRIANGLE-HEADED ARROW aDOWNWARDS TRIANGLE-HEADED ARROW
LEFTWARDS OF UPWARDS TRIANGLE-HEADED ARROW aLEFTWARDS TRIANGLE-HEADED PAIRED ARROWS aUPWARDS
TRIANGLE-HEADED PAIRED ARROWS aRIGHTWARDS TRIANGLE-HEADED PAIRED ARROWS aDOWNWARDS TRIANGLE-HEADED
PAIRED ARROWS aLEFTWARDS BLACK CIRCLED WHITE ARROW aUPWARDS BLACK CIRCLED WHITE ARROW aRIGHTWARDS
BLACK CIRCLED WHITE ARROW aDOWNWARDS BLACK CIRCLED WHITE ARROW aANTICLOCKWISE TRIANGLE-HEADED RIGHT
U-SHAPED ARROW cBOTTOM U-SHAPED ARROW cLEFT U-SHAPED ARROW cTOP U-SHAPED ARROW aRETURN LEFT bRIGHT
aNEWLINE LEFT bRIGHT aFOUR CORNER ARROWS CIRCLING ANTICLOCKWISE aRIGHTWARDS BLACK ARROW =2B97
aSYMBOL FOR TYPE A ELECTRONICS aTHREE-D TOP-LIGHTED LEFTWARDS EQUILATERAL ARROWHEAD bRIGHT-LIGHTED
UPWARDS EQUILATERAL ARROWHEAD bTOP-LIGHTED RIGHTWARDS EQUILATERAL ARROWHEAD bLEFT-LIGHTED DOWNWARDS
EQUILATERAL ARROWHEAD aBLACK LEFTWARDS EQUILATERAL ARROWHEAD bUPWARDS EQUILATERAL ARROWHEAD
bRIGHTWARDS EQUILATERAL ARROWHEAD bDOWNWARDS EQUILATERAL ARROWHEAD aDOWNWARDS TRIANGLE-HEADED ARROW
WITH LONG TIP LEFTWARDS gRIGHTWARDS aUPWARDS TRIANGLE-HEADED ARROW WITH LONG TIP LEFTWARDS
gRIGHTWARDS aLEFTWARDS TRIANGLE-HEADED ARROW WITH LONG TIP UPWARDS aRIGHTWARDS TRIANGLE-HEADED
ARROW WITH LONG TIP UPWARDS aLEFTWARDS TRIANGLE-HEADED ARROW WITH LONG TIP DOWNWARDS aRIGHTWARDS
TRIANGLE-HEADED ARROW WITH LONG TIP DOWNWARDS aBLACK CURVED DOWNWARDS AND LEFTWARDS ARROW
eRIGHTWARDS ARROW cUPWARDS AND LEFTWARDS ARROW eRIGHTWARDS ARROW cLEFTWARDS AND UPWARDS ARROW
cRIGHTWARDS AND UPWARDS ARROW cLEFTWARDS AND DOWNWARDS ARROW cRIGHTWARDS AND DOWNWARDS ARROW
aRIBBON ARROW DOWN LEFT dRIGHT cUP LEFT dRIGHT cLEFT UP cRIGHT UP cLEFT DOWN cRIGHT DOWN aUPWARDS
WHITE ARROW FROM BAR WITH HORIZONTAL BAR aUP ARROWHEAD IN A RECTANGLE BOX aOVERLAPPING WHITE
SQUARES cAND BLACK SQUARES bBLACK SQUARES aBALLOT BOX WITH LIGHT X aCIRCLED X bBOLD X aBLACK SQUARE
CENTRED bDIAMOND CENTRED aTURNED BLACK PENTAGON aHORIZONTAL BLACK OCTAGON aBLACK OCTAGON bMEDIUM
UP-POINTING TRIANGLE CENTRED cDOWN-POINTING TRIANGLE CENTRED cLEFT-POINTING TRIANGLE CENTRED
cRIGHT-POINTING TRIANGLE CENTRED aNEPTUNE FORM TWO aTOP HALF BLACK CIRCLE"

private def signNames5 : String := "
=2BCB aBOTTOM HALF BLACK CIRCLE aLIGHT FOUR POINTED BLACK CUSP aROTATED LIGHT FOUR POINTED BLACK
CUSP aWHITE FOUR POINTED CUSP aROTATED WHITE FOUR POINTED CUSP aSQUARE POSITION INDICATOR
aUNCERTAINTY SIGN aGROUP MARK aPLUTO FORM TWO cTHREE cFOUR cFIVE aTRANSPLUTO aPROSERPINA aASTRAEA
aHYGIEA aPHOLUS aNESSUS aWHITE MOON SELENA aBLACK DIAMOND ON CROSS aTRUE LIGHT MOON ARTA aCUPIDO
aHADES aZEUS aKRONOS aAPOLLON aADMETOS aVULCANUS aPOSEIDON aLEFT HALF BLACK STAR aRIGHT HALF BLACK
STAR aSTAR WITH LEFT HALF BLACK cRIGHT HALF BLACK aLEFTWARDS TWO-HEADED ARROW WITH TRIANGLE
ARROWHEADS aUPWARDS TWO-HEADED ARROW WITH TRIANGLE ARROWHEADS aRIGHTWARDS TWO-HEADED ARROW WITH
TRIANGLE ARROWHEADS aDOWNWARDS TWO-HEADED ARROW WITH TRIANGLE ARROWHEADS aERIS FORM ONE cTWO aSEDNA
aRUSSIAN ASTROLOGICAL SYMBOL VIGINTILE dNOVILE dQUINTILE dBINOVILE dSENTAGON dTREDECILE aEQUALS
SIGN WITH INFINITY BELOW aUNITED SYMBOL aSEPARATED SYMBOL aDOUBLED SYMBOL aPASSED SYMBOL aREVERSED
RIGHT ANGLE aHELLSCHREIBER PAUSE SYMBOL"

/-- The names of these code points, in pieces. -/
def signNames : List String :=
  [signNames1, signNames2, signNames3, signNames4, signNames5]

end ToolPolicy.NameTable
