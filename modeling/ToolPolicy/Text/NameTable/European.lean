/-!
# Letters of European scripts

Latin, Greek, Cyrillic and Armenian letters, and the signs of ASCII. The names are written as
`CodePoint.findName?` reads them.
-/

namespace ToolPolicy.NameTable

private def europeanNames1 : String := "
=20 aSPACE aEXCLAMATION MARK aQUOTATION MARK aNUMBER SIGN aDOLLAR SIGN aPERCENT SIGN aAMPERSAND
aAPOSTROPHE aLEFT PARENTHESIS aRIGHT PARENTHESIS aASTERISK aPLUS SIGN aCOMMA aHYPHEN-MINUS aFULL
STOP aSOLIDUS aDIGIT ZERO bONE bTWO bTHREE bFOUR bFIVE bSIX bSEVEN bEIGHT bNINE aCOLON aSEMICOLON
aLESS-THAN SIGN aEQUALS SIGN aGREATER-THAN SIGN aQUESTION MARK aCOMMERCIAL AT aLATIN CAPITAL LETTER
A dB dC dD dE dF dG dH dI dJ dK dL dM dN dO dP dQ dR dS dT dU dV dW dX dY dZ aLEFT SQUARE BRACKET
aREVERSE SOLIDUS aRIGHT SQUARE BRACKET aCIRCUMFLEX ACCENT aLOW LINE aGRAVE ACCENT aLATIN SMALL
LETTER A dB dC dD dE dF dG dH dI dJ dK dL dM dN dO dP dQ dR dS dT dU dV dW dX dY dZ aLEFT CURLY
BRACKET aVERTICAL LINE aRIGHT CURLY BRACKET aTILDE =A0 aNO-BREAK SPACE aINVERTED EXCLAMATION MARK
aCENT SIGN aPOUND SIGN aCURRENCY SIGN aYEN SIGN aBROKEN BAR aSECTION SIGN aDIAERESIS aCOPYRIGHT
SIGN aFEMININE ORDINAL INDICATOR aLEFT-POINTING DOUBLE ANGLE QUOTATION MARK aNOT SIGN aSOFT HYPHEN
aREGISTERED SIGN aMACRON aDEGREE SIGN aPLUS-MINUS SIGN aSUPERSCRIPT TWO bTHREE aACUTE ACCENT aMICRO
SIGN aPILCROW SIGN aMIDDLE DOT aCEDILLA aSUPERSCRIPT ONE aMASCULINE ORDINAL INDICATOR
aRIGHT-POINTING DOUBLE ANGLE QUOTATION MARK aVULGAR FRACTION ONE QUARTER dHALF cTHREE QUARTERS
aINVERTED QUESTION MARK aLATIN CAPITAL LETTER A WITH GRAVE fACUTE fCIRCUMFLEX fTILDE fDIAERESIS
fRING ABOVE dAE dC WITH CEDILLA dE WITH GRAVE fACUTE fCIRCUMFLEX fDIAERESIS dI WITH GRAVE fACUTE
fCIRCUMFLEX fDIAERESIS dETH dN WITH TILDE dO WITH GRAVE fACUTE fCIRCUMFLEX fTILDE fDIAERESIS
aMULTIPLICATION SIGN aLATIN CAPITAL LETTER O WITH STROKE dU WITH GRAVE fACUTE fCIRCUMFLEX
fDIAERESIS dY WITH ACUTE dTHORN bSMALL LETTER SHARP S dA WITH GRAVE fACUTE fCIRCUMFLEX fTILDE
fDIAERESIS fRING ABOVE dAE dC WITH CEDILLA dE WITH GRAVE fACUTE fCIRCUMFLEX fDIAERESIS dI WITH
GRAVE fACUTE fCIRCUMFLEX fDIAERESIS dETH dN WITH TILDE dO WITH GRAVE fACUTE fCIRCUMFLEX fTILDE
fDIAERESIS aDIVISION SIGN aLATIN SMALL LETTER O WITH STROKE dU WITH GRAVE fACUTE fCIRCUMFLEX
fDIAERESIS dY WITH ACUTE dTHORN dY WITH DIAERESIS bCAPITAL LETTER A WITH MACRON bSMALL LETTER A
WITH MACRON bCAPITAL LETTER A WITH BREVE bSMALL LETTER A WITH BREVE bCAPITAL LETTER A WITH OGONEK
bSMALL LETTER A WITH OGONEK bCAPITAL LETTER C WITH ACUTE bSMALL LETTER C WITH ACUTE bCAPITAL LETTER
C WITH CIRCUMFLEX bSMALL LETTER C WITH CIRCUMFLEX bCAPITAL LETTER C WITH DOT ABOVE bSMALL LETTER C
WITH DOT ABOVE bCAPITAL LETTER C WITH CARON bSMALL LETTER C WITH CARON bCAPITAL LETTER D WITH CARON
bSMALL LETTER D WITH CARON bCAPITAL LETTER D WITH STROKE bSMALL LETTER D WITH STROKE bCAPITAL
LETTER E WITH MACRON bSMALL LETTER E WITH MACRON bCAPITAL LETTER E WITH BREVE bSMALL LETTER E WITH
BREVE bCAPITAL LETTER E WITH DOT ABOVE bSMALL LETTER E WITH DOT ABOVE bCAPITAL LETTER E WITH OGONEK
bSMALL LETTER E WITH OGONEK bCAPITAL LETTER E WITH CARON bSMALL LETTER E WITH CARON bCAPITAL LETTER
G WITH CIRCUMFLEX bSMALL LETTER G WITH CIRCUMFLEX bCAPITAL LETTER G WITH BREVE bSMALL LETTER G WITH
BREVE bCAPITAL LETTER G WITH DOT ABOVE bSMALL LETTER G WITH DOT ABOVE bCAPITAL LETTER G WITH
CEDILLA bSMALL LETTER G WITH CEDILLA bCAPITAL LETTER H WITH CIRCUMFLEX bSMALL LETTER H WITH
CIRCUMFLEX bCAPITAL LETTER H WITH STROKE bSMALL LETTER H WITH STROKE bCAPITAL LETTER I WITH TILDE
bSMALL LETTER I WITH TILDE bCAPITAL LETTER I WITH MACRON bSMALL LETTER I WITH MACRON bCAPITAL
LETTER I WITH BREVE bSMALL LETTER I WITH BREVE bCAPITAL LETTER I WITH OGONEK bSMALL LETTER I WITH
OGONEK bCAPITAL LETTER I WITH DOT ABOVE bSMALL LETTER DOTLESS I bCAPITAL LIGATURE IJ bSMALL
LIGATURE IJ bCAPITAL LETTER J WITH CIRCUMFLEX bSMALL LETTER J WITH CIRCUMFLEX bCAPITAL LETTER K
WITH CEDILLA bSMALL LETTER K WITH CEDILLA dKRA bCAPITAL LETTER L WITH ACUTE bSMALL LETTER L WITH
ACUTE bCAPITAL LETTER L WITH CEDILLA bSMALL LETTER L WITH CEDILLA bCAPITAL LETTER L WITH CARON
bSMALL LETTER L WITH CARON bCAPITAL LETTER L WITH MIDDLE DOT bSMALL LETTER L WITH MIDDLE DOT
bCAPITAL LETTER L WITH STROKE bSMALL LETTER L WITH STROKE bCAPITAL LETTER N WITH ACUTE bSMALL
LETTER N WITH ACUTE bCAPITAL LETTER N WITH CEDILLA bSMALL LETTER N WITH CEDILLA bCAPITAL LETTER N
WITH CARON bSMALL LETTER N WITH CARON ePRECEDED BY APOSTROPHE bCAPITAL LETTER ENG bSMALL LETTER ENG
bCAPITAL LETTER O WITH MACRON bSMALL LETTER O WITH MACRON bCAPITAL LETTER O WITH BREVE bSMALL
LETTER O WITH BREVE bCAPITAL LETTER O WITH DOUBLE ACUTE bSMALL LETTER O WITH DOUBLE ACUTE bCAPITAL
LIGATURE OE bSMALL LIGATURE OE bCAPITAL LETTER R WITH ACUTE bSMALL LETTER R WITH ACUTE bCAPITAL
LETTER R WITH CEDILLA bSMALL LETTER R WITH CEDILLA bCAPITAL LETTER R WITH CARON bSMALL LETTER R
WITH CARON bCAPITAL LETTER S WITH ACUTE bSMALL LETTER S WITH ACUTE bCAPITAL LETTER S WITH
CIRCUMFLEX bSMALL LETTER S WITH CIRCUMFLEX bCAPITAL LETTER S WITH CEDILLA bSMALL LETTER S WITH
CEDILLA bCAPITAL LETTER S WITH CARON bSMALL LETTER S WITH CARON bCAPITAL LETTER T WITH CEDILLA
bSMALL LETTER T WITH CEDILLA bCAPITAL LETTER T WITH CARON bSMALL LETTER T WITH CARON bCAPITAL
LETTER T WITH STROKE bSMALL LETTER T WITH STROKE bCAPITAL LETTER U WITH TILDE bSMALL LETTER U WITH
TILDE bCAPITAL LETTER U WITH MACRON bSMALL LETTER U WITH MACRON bCAPITAL LETTER U WITH BREVE bSMALL
LETTER U WITH BREVE bCAPITAL LETTER U WITH RING ABOVE bSMALL LETTER U WITH RING ABOVE bCAPITAL
LETTER U WITH DOUBLE ACUTE bSMALL LETTER U WITH DOUBLE ACUTE bCAPITAL LETTER U WITH OGONEK bSMALL
LETTER U WITH OGONEK bCAPITAL LETTER W WITH CIRCUMFLEX bSMALL LETTER W WITH CIRCUMFLEX bCAPITAL
LETTER Y WITH CIRCUMFLEX bSMALL LETTER Y WITH CIRCUMFLEX bCAPITAL LETTER Y WITH DIAERESIS dZ WITH
ACUTE bSMALL LETTER Z WITH ACUTE bCAPITAL LETTER Z WITH DOT ABOVE bSMALL LETTER Z WITH DOT ABOVE
bCAPITAL LETTER Z WITH CARON bSMALL LETTER Z WITH CARON dLONG S dB WITH STROKE bCAPITAL LETTER B
WITH HOOK fTOPBAR bSMALL LETTER B WITH TOPBAR bCAPITAL LETTER TONE SIX bSMALL LETTER TONE SIX
bCAPITAL LETTER OPEN O dC WITH HOOK bSMALL LETTER C WITH HOOK bCAPITAL LETTER AFRICAN D dD WITH
HOOK fTOPBAR bSMALL LETTER D WITH TOPBAR dTURNED DELTA bCAPITAL LETTER REVERSED E dSCHWA dOPEN E dF
WITH HOOK bSMALL LETTER F WITH HOOK bCAPITAL LETTER G WITH HOOK dGAMMA bSMALL LETTER HV bCAPITAL
LETTER IOTA dI WITH STROKE dK WITH HOOK bSMALL LETTER K WITH HOOK dL WITH BAR dLAMBDA WITH STROKE
bCAPITAL LETTER TURNED M dN WITH LEFT HOOK bSMALL LETTER N WITH LONG RIGHT LEG bCAPITAL LETTER O
WITH MIDDLE TILDE fHORN bSMALL LETTER O WITH HORN bCAPITAL LETTER OI bSMALL LETTER OI bCAPITAL
LETTER P WITH HOOK bSMALL LETTER P WITH HOOK bLETTER YR bCAPITAL LETTER TONE TWO bSMALL LETTER TONE
TWO bCAPITAL LETTER ESH bLETTER REVERSED ESH LOOP bSMALL LETTER T WITH PALATAL HOOK bCAPITAL LETTER
T WITH HOOK bSMALL LETTER T WITH HOOK bCAPITAL LETTER T WITH RETROFLEX HOOK dU WITH HORN bSMALL
LETTER U WITH HORN bCAPITAL LETTER UPSILON dV WITH HOOK dY WITH HOOK bSMALL LETTER Y WITH HOOK
bCAPITAL LETTER Z WITH STROKE bSMALL LETTER Z WITH STROKE bCAPITAL LETTER EZH eREVERSED bSMALL
LETTER EZH REVERSED eWITH TAIL bLETTER TWO WITH STROKE bCAPITAL LETTER TONE FIVE bSMALL LETTER TONE
FIVE bLETTER INVERTED GLOTTAL STOP WITH STROKE cWYNN cDENTAL CLICK cLATERAL CLICK cALVEOLAR CLICK
cRETROFLEX CLICK bCAPITAL LETTER DZ WITH CARON dD WITH SMALL LETTER Z WITH CARON bSMALL LETTER DZ
WITH CARON bCAPITAL LETTER LJ dL WITH SMALL LETTER J bSMALL LETTER LJ bCAPITAL LETTER NJ dN WITH
SMALL LETTER J bSMALL LETTER NJ bCAPITAL LETTER A WITH CARON bSMALL LETTER A WITH CARON bCAPITAL
LETTER I WITH CARON bSMALL LETTER I WITH CARON bCAPITAL LETTER O WITH CARON bSMALL LETTER O WITH
CARON bCAPITAL LETTER U WITH CARON bSMALL LETTER U WITH CARON bCAPITAL LETTER U WITH DIAERESIS AND
MACRON bSMALL LETTER U WITH DIAERESIS AND MACRON bCAPITAL LETTER U WITH DIAERESIS AND ACUTE bSMALL
LETTER U WITH DIAERESIS AND ACUTE bCAPITAL LETTER U WITH DIAERESIS AND CARON bSMALL LETTER U WITH
DIAERESIS AND CARON bCAPITAL LETTER U WITH DIAERESIS AND GRAVE bSMALL LETTER U WITH DIAERESIS AND
GRAVE dTURNED E bCAPITAL LETTER A WITH DIAERESIS AND MACRON bSMALL LETTER A WITH DIAERESIS AND
MACRON bCAPITAL LETTER A WITH DOT ABOVE AND MACRON bSMALL LETTER A WITH DOT ABOVE AND MACRON
bCAPITAL LETTER AE WITH MACRON bSMALL LETTER AE WITH MACRON bCAPITAL LETTER G WITH STROKE bSMALL
LETTER G WITH STROKE bCAPITAL LETTER G WITH CARON bSMALL LETTER G WITH CARON bCAPITAL LETTER K WITH
CARON bSMALL LETTER K WITH CARON bCAPITAL LETTER O WITH OGONEK bSMALL LETTER O WITH OGONEK bCAPITAL
LETTER O WITH OGONEK AND MACRON bSMALL LETTER O WITH OGONEK AND MACRON bCAPITAL LETTER EZH WITH
CARON bSMALL LETTER EZH WITH CARON dJ WITH CARON bCAPITAL LETTER DZ dD WITH SMALL LETTER Z bSMALL
LETTER DZ bCAPITAL LETTER G WITH ACUTE bSMALL LETTER G WITH ACUTE bCAPITAL LETTER HWAIR dWYNN dN
WITH GRAVE"

private def europeanNames2 : String := "
=1F9 aLATIN SMALL LETTER N WITH GRAVE bCAPITAL LETTER A WITH RING ABOVE AND ACUTE bSMALL LETTER A
WITH RING ABOVE AND ACUTE bCAPITAL LETTER AE WITH ACUTE bSMALL LETTER AE WITH ACUTE bCAPITAL LETTER
O WITH STROKE AND ACUTE bSMALL LETTER O WITH STROKE AND ACUTE bCAPITAL LETTER A WITH DOUBLE GRAVE
bSMALL LETTER A WITH DOUBLE GRAVE bCAPITAL LETTER A WITH INVERTED BREVE bSMALL LETTER A WITH
INVERTED BREVE bCAPITAL LETTER E WITH DOUBLE GRAVE bSMALL LETTER E WITH DOUBLE GRAVE bCAPITAL
LETTER E WITH INVERTED BREVE bSMALL LETTER E WITH INVERTED BREVE bCAPITAL LETTER I WITH DOUBLE
GRAVE bSMALL LETTER I WITH DOUBLE GRAVE bCAPITAL LETTER I WITH INVERTED BREVE bSMALL LETTER I WITH
INVERTED BREVE bCAPITAL LETTER O WITH DOUBLE GRAVE bSMALL LETTER O WITH DOUBLE GRAVE bCAPITAL
LETTER O WITH INVERTED BREVE bSMALL LETTER O WITH INVERTED BREVE bCAPITAL LETTER R WITH DOUBLE
GRAVE bSMALL LETTER R WITH DOUBLE GRAVE bCAPITAL LETTER R WITH INVERTED BREVE bSMALL LETTER R WITH
INVERTED BREVE bCAPITAL LETTER U WITH DOUBLE GRAVE bSMALL LETTER U WITH DOUBLE GRAVE bCAPITAL
LETTER U WITH INVERTED BREVE bSMALL LETTER U WITH INVERTED BREVE bCAPITAL LETTER S WITH COMMA BELOW
bSMALL LETTER S WITH COMMA BELOW bCAPITAL LETTER T WITH COMMA BELOW bSMALL LETTER T WITH COMMA
BELOW bCAPITAL LETTER YOGH bSMALL LETTER YOGH bCAPITAL LETTER H WITH CARON bSMALL LETTER H WITH
CARON bCAPITAL LETTER N WITH LONG RIGHT LEG bSMALL LETTER D WITH CURL bCAPITAL LETTER OU bSMALL
LETTER OU bCAPITAL LETTER Z WITH HOOK bSMALL LETTER Z WITH HOOK bCAPITAL LETTER A WITH DOT ABOVE
bSMALL LETTER A WITH DOT ABOVE bCAPITAL LETTER E WITH CEDILLA bSMALL LETTER E WITH CEDILLA bCAPITAL
LETTER O WITH DIAERESIS AND MACRON bSMALL LETTER O WITH DIAERESIS AND MACRON bCAPITAL LETTER O WITH
TILDE AND MACRON bSMALL LETTER O WITH TILDE AND MACRON bCAPITAL LETTER O WITH DOT ABOVE bSMALL
LETTER O WITH DOT ABOVE bCAPITAL LETTER O WITH DOT ABOVE AND MACRON bSMALL LETTER O WITH DOT ABOVE
AND MACRON bCAPITAL LETTER Y WITH MACRON bSMALL LETTER Y WITH MACRON dL WITH CURL dN WITH CURL dT
WITH CURL dDOTLESS J dDB DIGRAPH dQP DIGRAPH bCAPITAL LETTER A WITH STROKE dC WITH STROKE bSMALL
LETTER C WITH STROKE bCAPITAL LETTER L WITH BAR dT WITH DIAGONAL STROKE bSMALL LETTER S WITH SWASH
TAIL dZ WITH SWASH TAIL bCAPITAL LETTER GLOTTAL STOP bSMALL LETTER GLOTTAL STOP bCAPITAL LETTER B
WITH STROKE dU BAR dTURNED V dE WITH STROKE bSMALL LETTER E WITH STROKE bCAPITAL LETTER J WITH
STROKE bSMALL LETTER J WITH STROKE bCAPITAL LETTER SMALL Q WITH HOOK TAIL bSMALL LETTER Q WITH HOOK
TAIL bCAPITAL LETTER R WITH STROKE bSMALL LETTER R WITH STROKE bCAPITAL LETTER Y WITH STROKE bSMALL
LETTER Y WITH STROKE dTURNED A dALPHA dTURNED ALPHA dB WITH HOOK dOPEN O dC WITH CURL dD WITH TAIL
fHOOK dREVERSED E dSCHWA eWITH HOOK dOPEN E dREVERSED OPEN E gWITH HOOK dCLOSED REVERSED OPEN E
dDOTLESS J WITH STROKE dG WITH HOOK dSCRIPT G bLETTER SMALL CAPITAL G bSMALL LETTER GAMMA dRAMS
HORN dTURNED H dH WITH HOOK dHENG WITH HOOK dI WITH STROKE dIOTA bLETTER SMALL CAPITAL I bSMALL
LETTER L WITH MIDDLE TILDE fBELT fRETROFLEX HOOK dLEZH dTURNED M fWITH LONG LEG dM WITH HOOK dN
WITH LEFT HOOK fRETROFLEX HOOK bLETTER SMALL CAPITAL N bSMALL LETTER BARRED O bLETTER SMALL CAPITAL
OE bSMALL LETTER CLOSED OMEGA dPHI dTURNED R fWITH LONG LEG gHOOK dR WITH LONG LEG fTAIL fFISHHOOK
dREVERSED R WITH FISHHOOK bLETTER SMALL CAPITAL R eINVERTED R bSMALL LETTER S WITH HOOK dESH
dDOTLESS J WITH STROKE AND HOOK dSQUAT REVERSED ESH dESH WITH CURL dTURNED T dT WITH RETROFLEX HOOK
dU BAR dUPSILON dV WITH HOOK dTURNED V eW eY bLETTER SMALL CAPITAL Y bSMALL LETTER Z WITH RETROFLEX
HOOK fCURL dEZH eWITH CURL bLETTER GLOTTAL STOP cPHARYNGEAL VOICED FRICATIVE cINVERTED GLOTTAL STOP
cSTRETCHED C cBILABIAL CLICK cSMALL CAPITAL B bSMALL LETTER CLOSED OPEN E bLETTER SMALL CAPITAL G
WITH HOOK eH bSMALL LETTER J WITH CROSSED-TAIL dTURNED K bLETTER SMALL CAPITAL L bSMALL LETTER Q
WITH HOOK bLETTER GLOTTAL STOP WITH STROKE cREVERSED GLOTTAL STOP WITH STROKE bSMALL LETTER DZ
DIGRAPH dDEZH DIGRAPH dDZ DIGRAPH WITH CURL dTS DIGRAPH dTESH DIGRAPH dTC DIGRAPH WITH CURL dFENG
DIGRAPH dLS DIGRAPH dLZ DIGRAPH bLETTER BILABIAL PERCUSSIVE cBIDENTAL PERCUSSIVE bSMALL LETTER
TURNED H WITH FISHHOOK hAND TAIL aMODIFIER LETTER SMALL H eWITH HOOK dJ dR dTURNED R fWITH HOOK
dCAPITAL INVERTED R dW dY cPRIME cDOUBLE PRIME cTURNED COMMA cAPOSTROPHE cREVERSED COMMA cRIGHT
HALF RING cLEFT HALF RING cGLOTTAL STOP cREVERSED GLOTTAL STOP cLEFT ARROWHEAD cRIGHT ARROWHEAD cUP
ARROWHEAD cDOWN ARROWHEAD cCIRCUMFLEX ACCENT aCARON aMODIFIER LETTER VERTICAL LINE cMACRON cACUTE
ACCENT cGRAVE ACCENT cLOW VERTICAL LINE dMACRON dGRAVE ACCENT dACUTE ACCENT cTRIANGULAR COLON cHALF
TRIANGULAR COLON cCENTRED RIGHT HALF RING dLEFT HALF RING cUP TACK cDOWN TACK cPLUS SIGN cMINUS
SIGN aBREVE aDOT ABOVE aRING ABOVE aOGONEK aSMALL TILDE aDOUBLE ACUTE ACCENT aMODIFIER LETTER
RHOTIC HOOK cCROSS ACCENT cSMALL GAMMA dL dS dX dREVERSED GLOTTAL STOP cEXTRA-HIGH TONE BAR cHIGH
TONE BAR cMID TONE BAR cLOW TONE BAR cEXTRA-LOW TONE BAR cYIN DEPARTING TONE MARK cYANG DEPARTING
TONE MARK cVOICING cUNASPIRATED cDOUBLE APOSTROPHE cLOW DOWN ARROWHEAD dUP ARROWHEAD dLEFT
ARROWHEAD dRIGHT ARROWHEAD dRING cMIDDLE GRAVE ACCENT dDOUBLE GRAVE ACCENT eACUTE ACCENT cLOW TILDE
cRAISED COLON cBEGIN HIGH TONE cEND HIGH TONE cBEGIN LOW TONE cEND LOW TONE cSHELF cOPEN SHELF cLOW
LEFT ARROW aCOMBINING GRAVE ACCENT bACUTE ACCENT bCIRCUMFLEX ACCENT bTILDE bMACRON bOVERLINE bBREVE
bDOT ABOVE bDIAERESIS bHOOK ABOVE bRING ABOVE bDOUBLE ACUTE ACCENT bCARON bVERTICAL LINE ABOVE
bDOUBLE VERTICAL LINE ABOVE cGRAVE ACCENT bCANDRABINDU bINVERTED BREVE bTURNED COMMA ABOVE bCOMMA
ABOVE bREVERSED COMMA ABOVE bCOMMA ABOVE RIGHT bGRAVE ACCENT BELOW bACUTE ACCENT BELOW bLEFT TACK
BELOW bRIGHT TACK BELOW bLEFT ANGLE ABOVE bHORN bLEFT HALF RING BELOW bUP TACK BELOW bDOWN TACK
BELOW bPLUS SIGN BELOW bMINUS SIGN BELOW bPALATALIZED HOOK BELOW bRETROFLEX HOOK BELOW bDOT BELOW
bDIAERESIS BELOW bRING BELOW bCOMMA BELOW bCEDILLA bOGONEK bVERTICAL LINE BELOW bBRIDGE BELOW
bINVERTED DOUBLE ARCH BELOW bCARON BELOW bCIRCUMFLEX ACCENT BELOW bBREVE BELOW bINVERTED BREVE
BELOW bTILDE BELOW bMACRON BELOW bLOW LINE bDOUBLE LOW LINE bTILDE OVERLAY bSHORT STROKE OVERLAY
bLONG STROKE OVERLAY bSHORT SOLIDUS OVERLAY bLONG SOLIDUS OVERLAY bRIGHT HALF RING BELOW bINVERTED
BRIDGE BELOW bSQUARE BELOW bSEAGULL BELOW bX ABOVE bVERTICAL TILDE bDOUBLE OVERLINE bGRAVE TONE
MARK bACUTE TONE MARK bGREEK PERISPOMENI cKORONIS cDIALYTIKA TONOS cYPOGEGRAMMENI bBRIDGE ABOVE
bEQUALS SIGN BELOW bDOUBLE VERTICAL LINE BELOW bLEFT ANGLE BELOW bNOT TILDE ABOVE bHOMOTHETIC ABOVE
bALMOST EQUAL TO ABOVE bLEFT RIGHT ARROW BELOW bUPWARDS ARROW BELOW bGRAPHEME JOINER bRIGHT
ARROWHEAD ABOVE bLEFT HALF RING ABOVE bFERMATA bX BELOW bLEFT ARROWHEAD BELOW bRIGHT ARROWHEAD
BELOW dAND UP ARROWHEAD BELOW cHALF RING ABOVE bDOT ABOVE RIGHT bASTERISK BELOW bDOUBLE RING BELOW
bZIGZAG ABOVE bDOUBLE BREVE BELOW d cMACRON dBELOW cTILDE cINVERTED BREVE cRIGHTWARDS ARROW BELOW
bLATIN SMALL LETTER A eE eI eO eU eC eD eH eM eR eT eV eX aGREEK CAPITAL LETTER HETA bSMALL LETTER
HETA bCAPITAL LETTER ARCHAIC SAMPI bSMALL LETTER ARCHAIC SAMPI bNUMERAL SIGN bLOWER NUMERAL SIGN
bCAPITAL LETTER PAMPHYLIAN DIGAMMA bSMALL LETTER PAMPHYLIAN DIGAMMA =37A bYPOGEGRAMMENI bSMALL
REVERSED LUNATE SIGMA SYMBOL cDOTTED LUNATE SIGMA SYMBOL cREVERSED DOTTED LUNATE SIGMA SYMBOL
bQUESTION MARK bCAPITAL LETTER YOT =384 bTONOS bDIALYTIKA TONOS bCAPITAL LETTER ALPHA WITH TONOS
bANO TELEIA bCAPITAL LETTER EPSILON WITH TONOS dETA WITH TONOS dIOTA WITH TONOS =38C dOMICRON WITH
TONOS =38E dUPSILON WITH TONOS dOMEGA WITH TONOS bSMALL LETTER IOTA WITH DIALYTIKA AND TONOS
bCAPITAL LETTER ALPHA dBETA dGAMMA dDELTA dEPSILON dZETA dETA dTHETA dIOTA dKAPPA dLAMDA dMU dNU
dXI dOMICRON dPI dRHO =3A3 dSIGMA dTAU dUPSILON dPHI dCHI dPSI dOMEGA dIOTA WITH DIALYTIKA dUPSILON
WITH DIALYTIKA bSMALL LETTER ALPHA WITH TONOS dEPSILON WITH TONOS dETA WITH TONOS dIOTA WITH TONOS
dUPSILON WITH DIALYTIKA AND TONOS dALPHA dBETA dGAMMA dDELTA dEPSILON dZETA dETA dTHETA dIOTA
dKAPPA dLAMDA dMU dNU dXI dOMICRON dPI dRHO dFINAL SIGMA dSIGMA dTAU dUPSILON dPHI dCHI dPSI dOMEGA
dIOTA WITH DIALYTIKA dUPSILON WITH DIALYTIKA dOMICRON WITH TONOS dUPSILON WITH TONOS dOMEGA WITH
TONOS bCAPITAL KAI SYMBOL bBETA SYMBOL bTHETA SYMBOL bUPSILON WITH HOOK SYMBOL dACUTE AND HOOK
SYMBOL dDIAERESIS AND HOOK SYMBOL bPHI SYMBOL bPI SYMBOL bKAI SYMBOL bLETTER ARCHAIC KOPPA bSMALL
LETTER ARCHAIC KOPPA bLETTER STIGMA bSMALL LETTER STIGMA bLETTER DIGAMMA bSMALL LETTER DIGAMMA
bLETTER KOPPA bSMALL LETTER KOPPA bLETTER SAMPI bSMALL LETTER SAMPI"

private def europeanNames3 : String := "
=3E2 aCOPTIC CAPITAL LETTER SHEI bSMALL LETTER SHEI bCAPITAL LETTER FEI bSMALL LETTER FEI bCAPITAL
LETTER KHEI bSMALL LETTER KHEI bCAPITAL LETTER HORI bSMALL LETTER HORI bCAPITAL LETTER GANGIA
bSMALL LETTER GANGIA bCAPITAL LETTER SHIMA bSMALL LETTER SHIMA bCAPITAL LETTER DEI bSMALL LETTER
DEI aGREEK KAPPA SYMBOL bRHO SYMBOL bLUNATE SIGMA SYMBOL bLETTER YOT bCAPITAL THETA SYMBOL bLUNATE
EPSILON SYMBOL bREVERSED LUNATE EPSILON SYMBOL bCAPITAL LETTER SHO bSMALL LETTER SHO bCAPITAL
LUNATE SIGMA SYMBOL cLETTER SAN bSMALL LETTER SAN bRHO WITH STROKE SYMBOL bCAPITAL REVERSED LUNATE
SIGMA SYMBOL cDOTTED LUNATE SIGMA SYMBOL cREVERSED DOTTED LUNATE SIGMA SYMBOL aCYRILLIC CAPITAL
LETTER IE WITH GRAVE dIO dDJE dGJE dUKRAINIAN IE dDZE dBYELORUSSIAN-UKRAINIAN I dYI dJE dLJE dNJE
dTSHE dKJE dI WITH GRAVE dSHORT U dDZHE dA dBE dVE dGHE dDE dIE dZHE dZE dI dSHORT I dKA dEL dEM
dEN dO dPE dER dES dTE dU dEF dHA dTSE dCHE dSHA dSHCHA dHARD SIGN dYERU dSOFT SIGN dE dYU dYA
bSMALL LETTER A dBE dVE dGHE dDE dIE dZHE dZE dI dSHORT I dKA dEL dEM dEN dO dPE dER dES dTE dU dEF
dHA dTSE dCHE dSHA dSHCHA dHARD SIGN dYERU dSOFT SIGN dE dYU dYA dIE WITH GRAVE dIO dDJE dGJE
dUKRAINIAN IE dDZE dBYELORUSSIAN-UKRAINIAN I dYI dJE dLJE dNJE dTSHE dKJE dI WITH GRAVE dSHORT U
dDZHE bCAPITAL LETTER OMEGA bSMALL LETTER OMEGA bCAPITAL LETTER YAT bSMALL LETTER YAT bCAPITAL
LETTER IOTIFIED E bSMALL LETTER IOTIFIED E bCAPITAL LETTER LITTLE YUS bSMALL LETTER LITTLE YUS
bCAPITAL LETTER IOTIFIED LITTLE YUS bSMALL LETTER IOTIFIED LITTLE YUS bCAPITAL LETTER BIG YUS
bSMALL LETTER BIG YUS bCAPITAL LETTER IOTIFIED BIG YUS bSMALL LETTER IOTIFIED BIG YUS bCAPITAL
LETTER KSI bSMALL LETTER KSI bCAPITAL LETTER PSI bSMALL LETTER PSI bCAPITAL LETTER FITA bSMALL
LETTER FITA bCAPITAL LETTER IZHITSA bSMALL LETTER IZHITSA bCAPITAL LETTER IZHITSA WITH DOUBLE GRAVE
ACCENT bSMALL LETTER IZHITSA WITH DOUBLE GRAVE ACCENT bCAPITAL LETTER UK bSMALL LETTER UK bCAPITAL
LETTER ROUND OMEGA bSMALL LETTER ROUND OMEGA bCAPITAL LETTER OMEGA WITH TITLO bSMALL LETTER OMEGA
WITH TITLO bCAPITAL LETTER OT bSMALL LETTER OT bCAPITAL LETTER KOPPA bSMALL LETTER KOPPA bTHOUSANDS
SIGN aCOMBINING CYRILLIC TITLO cPALATALIZATION cDASIA PNEUMATA cPSILI PNEUMATA cPOKRYTIE cHUNDRED
THOUSANDS SIGN cMILLIONS SIGN aCYRILLIC CAPITAL LETTER SHORT I WITH TAIL bSMALL LETTER SHORT I WITH
TAIL bCAPITAL LETTER SEMISOFT SIGN bSMALL LETTER SEMISOFT SIGN bCAPITAL LETTER ER WITH TICK bSMALL
LETTER ER WITH TICK bCAPITAL LETTER GHE WITH UPTURN bSMALL LETTER GHE WITH UPTURN bCAPITAL LETTER
GHE WITH STROKE bSMALL LETTER GHE WITH STROKE bCAPITAL LETTER GHE WITH MIDDLE HOOK bSMALL LETTER
GHE WITH MIDDLE HOOK bCAPITAL LETTER ZHE WITH DESCENDER bSMALL LETTER ZHE WITH DESCENDER bCAPITAL
LETTER ZE WITH DESCENDER bSMALL LETTER ZE WITH DESCENDER bCAPITAL LETTER KA WITH DESCENDER bSMALL
LETTER KA WITH DESCENDER bCAPITAL LETTER KA WITH VERTICAL STROKE bSMALL LETTER KA WITH VERTICAL
STROKE bCAPITAL LETTER KA WITH STROKE bSMALL LETTER KA WITH STROKE bCAPITAL LETTER BASHKIR KA
bSMALL LETTER BASHKIR KA bCAPITAL LETTER EN WITH DESCENDER bSMALL LETTER EN WITH DESCENDER bCAPITAL
LIGATURE EN GHE bSMALL LIGATURE EN GHE bCAPITAL LETTER PE WITH MIDDLE HOOK bSMALL LETTER PE WITH
MIDDLE HOOK bCAPITAL LETTER ABKHASIAN HA bSMALL LETTER ABKHASIAN HA bCAPITAL LETTER ES WITH
DESCENDER bSMALL LETTER ES WITH DESCENDER bCAPITAL LETTER TE WITH DESCENDER bSMALL LETTER TE WITH
DESCENDER bCAPITAL LETTER STRAIGHT U bSMALL LETTER STRAIGHT U bCAPITAL LETTER STRAIGHT U WITH
STROKE bSMALL LETTER STRAIGHT U WITH STROKE bCAPITAL LETTER HA WITH DESCENDER bSMALL LETTER HA WITH
DESCENDER bCAPITAL LIGATURE TE TSE bSMALL LIGATURE TE TSE bCAPITAL LETTER CHE WITH DESCENDER bSMALL
LETTER CHE WITH DESCENDER bCAPITAL LETTER CHE WITH VERTICAL STROKE bSMALL LETTER CHE WITH VERTICAL
STROKE bCAPITAL LETTER SHHA bSMALL LETTER SHHA bCAPITAL LETTER ABKHASIAN CHE bSMALL LETTER
ABKHASIAN CHE bCAPITAL LETTER ABKHASIAN CHE WITH DESCENDER bSMALL LETTER ABKHASIAN CHE WITH
DESCENDER bLETTER PALOCHKA bCAPITAL LETTER ZHE WITH BREVE bSMALL LETTER ZHE WITH BREVE bCAPITAL
LETTER KA WITH HOOK bSMALL LETTER KA WITH HOOK bCAPITAL LETTER EL WITH TAIL bSMALL LETTER EL WITH
TAIL bCAPITAL LETTER EN WITH HOOK bSMALL LETTER EN WITH HOOK bCAPITAL LETTER EN WITH TAIL bSMALL
LETTER EN WITH TAIL bCAPITAL LETTER KHAKASSIAN CHE bSMALL LETTER KHAKASSIAN CHE bCAPITAL LETTER EM
WITH TAIL bSMALL LETTER EM WITH TAIL dPALOCHKA bCAPITAL LETTER A WITH BREVE bSMALL LETTER A WITH
BREVE bCAPITAL LETTER A WITH DIAERESIS bSMALL LETTER A WITH DIAERESIS bCAPITAL LIGATURE A IE bSMALL
LIGATURE A IE bCAPITAL LETTER IE WITH BREVE bSMALL LETTER IE WITH BREVE bCAPITAL LETTER SCHWA
bSMALL LETTER SCHWA bCAPITAL LETTER SCHWA WITH DIAERESIS bSMALL LETTER SCHWA WITH DIAERESIS
bCAPITAL LETTER ZHE WITH DIAERESIS bSMALL LETTER ZHE WITH DIAERESIS bCAPITAL LETTER ZE WITH
DIAERESIS bSMALL LETTER ZE WITH DIAERESIS bCAPITAL LETTER ABKHASIAN DZE bSMALL LETTER ABKHASIAN DZE
bCAPITAL LETTER I WITH MACRON bSMALL LETTER I WITH MACRON bCAPITAL LETTER I WITH DIAERESIS bSMALL
LETTER I WITH DIAERESIS bCAPITAL LETTER O WITH DIAERESIS bSMALL LETTER O WITH DIAERESIS bCAPITAL
LETTER BARRED O bSMALL LETTER BARRED O bCAPITAL LETTER BARRED O WITH DIAERESIS bSMALL LETTER BARRED
O WITH DIAERESIS bCAPITAL LETTER E WITH DIAERESIS bSMALL LETTER E WITH DIAERESIS bCAPITAL LETTER U
WITH MACRON bSMALL LETTER U WITH MACRON bCAPITAL LETTER U WITH DIAERESIS bSMALL LETTER U WITH
DIAERESIS bCAPITAL LETTER U WITH DOUBLE ACUTE bSMALL LETTER U WITH DOUBLE ACUTE bCAPITAL LETTER CHE
WITH DIAERESIS bSMALL LETTER CHE WITH DIAERESIS bCAPITAL LETTER GHE WITH DESCENDER bSMALL LETTER
GHE WITH DESCENDER bCAPITAL LETTER YERU WITH DIAERESIS bSMALL LETTER YERU WITH DIAERESIS bCAPITAL
LETTER GHE WITH STROKE AND HOOK bSMALL LETTER GHE WITH STROKE AND HOOK bCAPITAL LETTER HA WITH HOOK
bSMALL LETTER HA WITH HOOK bCAPITAL LETTER HA WITH STROKE bSMALL LETTER HA WITH STROKE bCAPITAL
LETTER KOMI DE bSMALL LETTER KOMI DE bCAPITAL LETTER KOMI DJE bSMALL LETTER KOMI DJE bCAPITAL
LETTER KOMI ZJE bSMALL LETTER KOMI ZJE bCAPITAL LETTER KOMI DZJE bSMALL LETTER KOMI DZJE bCAPITAL
LETTER KOMI LJE bSMALL LETTER KOMI LJE bCAPITAL LETTER KOMI NJE bSMALL LETTER KOMI NJE bCAPITAL
LETTER KOMI SJE bSMALL LETTER KOMI SJE bCAPITAL LETTER KOMI TJE bSMALL LETTER KOMI TJE bCAPITAL
LETTER REVERSED ZE bSMALL LETTER REVERSED ZE bCAPITAL LETTER EL WITH HOOK bSMALL LETTER EL WITH
HOOK bCAPITAL LETTER LHA bSMALL LETTER LHA bCAPITAL LETTER RHA bSMALL LETTER RHA bCAPITAL LETTER
YAE bSMALL LETTER YAE bCAPITAL LETTER QA bSMALL LETTER QA bCAPITAL LETTER WE bSMALL LETTER WE
bCAPITAL LETTER ALEUT KA bSMALL LETTER ALEUT KA bCAPITAL LETTER EL WITH MIDDLE HOOK bSMALL LETTER
EL WITH MIDDLE HOOK bCAPITAL LETTER EN WITH MIDDLE HOOK bSMALL LETTER EN WITH MIDDLE HOOK bCAPITAL
LETTER PE WITH DESCENDER bSMALL LETTER PE WITH DESCENDER bCAPITAL LETTER SHHA WITH DESCENDER bSMALL
LETTER SHHA WITH DESCENDER bCAPITAL LETTER EN WITH LEFT HOOK bSMALL LETTER EN WITH LEFT HOOK
bCAPITAL LETTER DZZHE bSMALL LETTER DZZHE bCAPITAL LETTER DCHE bSMALL LETTER DCHE bCAPITAL LETTER
EL WITH DESCENDER bSMALL LETTER EL WITH DESCENDER =531 aARMENIAN CAPITAL LETTER AYB dBEN dGIM dDA
dECH dZA dEH dET dTO dZHE dINI dLIWN dXEH dCA dKEN dHO dJA dGHAD dCHEH dMEN dYI dNOW dSHA dVO dCHA
dPEH dJHEH dRA dSEH dVEW dTIWN dREH dCO dYIWN dPIWR dKEH dOH dFEH =559 bMODIFIER LETTER LEFT HALF
RING bAPOSTROPHE bEMPHASIS MARK bEXCLAMATION MARK bCOMMA bQUESTION MARK bABBREVIATION MARK bSMALL
LETTER TURNED AYB dAYB dBEN dGIM dDA dECH dZA dEH dET dTO dZHE dINI dLIWN dXEH dCA dKEN dHO dJA
dGHAD dCHEH dMEN dYI dNOW dSHA dVO dCHA dPEH dJHEH dRA dSEH dVEW dTIWN dREH dCO dYIWN dPIWR dKEH
dOH dFEH cLIGATURE ECH YIWN cLETTER YI WITH STROKE bFULL STOP bHYPHEN =58D aRIGHT-FACING ARMENIAN
ETERNITY SIGN aLEFT-FACING ARMENIAN ETERNITY SIGN aARMENIAN DRAM SIGN =1E00 aLATIN CAPITAL LETTER A
WITH RING BELOW bSMALL LETTER A WITH RING BELOW bCAPITAL LETTER B WITH DOT ABOVE bSMALL LETTER B
WITH DOT ABOVE bCAPITAL LETTER B WITH DOT BELOW bSMALL LETTER B WITH DOT BELOW bCAPITAL LETTER B
WITH LINE BELOW bSMALL LETTER B WITH LINE BELOW bCAPITAL LETTER C WITH CEDILLA AND ACUTE bSMALL
LETTER C WITH CEDILLA AND ACUTE bCAPITAL LETTER D WITH DOT ABOVE bSMALL LETTER D WITH DOT ABOVE
bCAPITAL LETTER D WITH DOT BELOW bSMALL LETTER D WITH DOT BELOW bCAPITAL LETTER D WITH LINE BELOW"

private def europeanNames4 : String := "
=1E0F aLATIN SMALL LETTER D WITH LINE BELOW bCAPITAL LETTER D WITH CEDILLA bSMALL LETTER D WITH
CEDILLA bCAPITAL LETTER D WITH CIRCUMFLEX BELOW bSMALL LETTER D WITH CIRCUMFLEX BELOW bCAPITAL
LETTER E WITH MACRON AND GRAVE bSMALL LETTER E WITH MACRON AND GRAVE bCAPITAL LETTER E WITH MACRON
AND ACUTE bSMALL LETTER E WITH MACRON AND ACUTE bCAPITAL LETTER E WITH CIRCUMFLEX BELOW bSMALL
LETTER E WITH CIRCUMFLEX BELOW bCAPITAL LETTER E WITH TILDE BELOW bSMALL LETTER E WITH TILDE BELOW
bCAPITAL LETTER E WITH CEDILLA AND BREVE bSMALL LETTER E WITH CEDILLA AND BREVE bCAPITAL LETTER F
WITH DOT ABOVE bSMALL LETTER F WITH DOT ABOVE bCAPITAL LETTER G WITH MACRON bSMALL LETTER G WITH
MACRON bCAPITAL LETTER H WITH DOT ABOVE bSMALL LETTER H WITH DOT ABOVE bCAPITAL LETTER H WITH DOT
BELOW bSMALL LETTER H WITH DOT BELOW bCAPITAL LETTER H WITH DIAERESIS bSMALL LETTER H WITH
DIAERESIS bCAPITAL LETTER H WITH CEDILLA bSMALL LETTER H WITH CEDILLA bCAPITAL LETTER H WITH BREVE
BELOW bSMALL LETTER H WITH BREVE BELOW bCAPITAL LETTER I WITH TILDE BELOW bSMALL LETTER I WITH
TILDE BELOW bCAPITAL LETTER I WITH DIAERESIS AND ACUTE bSMALL LETTER I WITH DIAERESIS AND ACUTE
bCAPITAL LETTER K WITH ACUTE bSMALL LETTER K WITH ACUTE bCAPITAL LETTER K WITH DOT BELOW bSMALL
LETTER K WITH DOT BELOW bCAPITAL LETTER K WITH LINE BELOW bSMALL LETTER K WITH LINE BELOW bCAPITAL
LETTER L WITH DOT BELOW bSMALL LETTER L WITH DOT BELOW bCAPITAL LETTER L WITH DOT BELOW AND MACRON
bSMALL LETTER L WITH DOT BELOW AND MACRON bCAPITAL LETTER L WITH LINE BELOW bSMALL LETTER L WITH
LINE BELOW bCAPITAL LETTER L WITH CIRCUMFLEX BELOW bSMALL LETTER L WITH CIRCUMFLEX BELOW bCAPITAL
LETTER M WITH ACUTE bSMALL LETTER M WITH ACUTE bCAPITAL LETTER M WITH DOT ABOVE bSMALL LETTER M
WITH DOT ABOVE bCAPITAL LETTER M WITH DOT BELOW bSMALL LETTER M WITH DOT BELOW bCAPITAL LETTER N
WITH DOT ABOVE bSMALL LETTER N WITH DOT ABOVE bCAPITAL LETTER N WITH DOT BELOW bSMALL LETTER N WITH
DOT BELOW bCAPITAL LETTER N WITH LINE BELOW bSMALL LETTER N WITH LINE BELOW bCAPITAL LETTER N WITH
CIRCUMFLEX BELOW bSMALL LETTER N WITH CIRCUMFLEX BELOW bCAPITAL LETTER O WITH TILDE AND ACUTE
bSMALL LETTER O WITH TILDE AND ACUTE bCAPITAL LETTER O WITH TILDE AND DIAERESIS bSMALL LETTER O
WITH TILDE AND DIAERESIS bCAPITAL LETTER O WITH MACRON AND GRAVE bSMALL LETTER O WITH MACRON AND
GRAVE bCAPITAL LETTER O WITH MACRON AND ACUTE bSMALL LETTER O WITH MACRON AND ACUTE bCAPITAL LETTER
P WITH ACUTE bSMALL LETTER P WITH ACUTE bCAPITAL LETTER P WITH DOT ABOVE bSMALL LETTER P WITH DOT
ABOVE bCAPITAL LETTER R WITH DOT ABOVE bSMALL LETTER R WITH DOT ABOVE bCAPITAL LETTER R WITH DOT
BELOW bSMALL LETTER R WITH DOT BELOW bCAPITAL LETTER R WITH DOT BELOW AND MACRON bSMALL LETTER R
WITH DOT BELOW AND MACRON bCAPITAL LETTER R WITH LINE BELOW bSMALL LETTER R WITH LINE BELOW
bCAPITAL LETTER S WITH DOT ABOVE bSMALL LETTER S WITH DOT ABOVE bCAPITAL LETTER S WITH DOT BELOW
bSMALL LETTER S WITH DOT BELOW bCAPITAL LETTER S WITH ACUTE AND DOT ABOVE bSMALL LETTER S WITH
ACUTE AND DOT ABOVE bCAPITAL LETTER S WITH CARON AND DOT ABOVE bSMALL LETTER S WITH CARON AND DOT
ABOVE bCAPITAL LETTER S WITH DOT BELOW AND DOT ABOVE bSMALL LETTER S WITH DOT BELOW AND DOT ABOVE
bCAPITAL LETTER T WITH DOT ABOVE bSMALL LETTER T WITH DOT ABOVE bCAPITAL LETTER T WITH DOT BELOW
bSMALL LETTER T WITH DOT BELOW bCAPITAL LETTER T WITH LINE BELOW bSMALL LETTER T WITH LINE BELOW
bCAPITAL LETTER T WITH CIRCUMFLEX BELOW bSMALL LETTER T WITH CIRCUMFLEX BELOW bCAPITAL LETTER U
WITH DIAERESIS BELOW bSMALL LETTER U WITH DIAERESIS BELOW bCAPITAL LETTER U WITH TILDE BELOW bSMALL
LETTER U WITH TILDE BELOW bCAPITAL LETTER U WITH CIRCUMFLEX BELOW bSMALL LETTER U WITH CIRCUMFLEX
BELOW bCAPITAL LETTER U WITH TILDE AND ACUTE bSMALL LETTER U WITH TILDE AND ACUTE bCAPITAL LETTER U
WITH MACRON AND DIAERESIS bSMALL LETTER U WITH MACRON AND DIAERESIS bCAPITAL LETTER V WITH TILDE
bSMALL LETTER V WITH TILDE bCAPITAL LETTER V WITH DOT BELOW bSMALL LETTER V WITH DOT BELOW bCAPITAL
LETTER W WITH GRAVE bSMALL LETTER W WITH GRAVE bCAPITAL LETTER W WITH ACUTE bSMALL LETTER W WITH
ACUTE bCAPITAL LETTER W WITH DIAERESIS bSMALL LETTER W WITH DIAERESIS bCAPITAL LETTER W WITH DOT
ABOVE bSMALL LETTER W WITH DOT ABOVE bCAPITAL LETTER W WITH DOT BELOW bSMALL LETTER W WITH DOT
BELOW bCAPITAL LETTER X WITH DOT ABOVE bSMALL LETTER X WITH DOT ABOVE bCAPITAL LETTER X WITH
DIAERESIS bSMALL LETTER X WITH DIAERESIS bCAPITAL LETTER Y WITH DOT ABOVE bSMALL LETTER Y WITH DOT
ABOVE bCAPITAL LETTER Z WITH CIRCUMFLEX bSMALL LETTER Z WITH CIRCUMFLEX bCAPITAL LETTER Z WITH DOT
BELOW bSMALL LETTER Z WITH DOT BELOW bCAPITAL LETTER Z WITH LINE BELOW bSMALL LETTER Z WITH LINE
BELOW dH WITH LINE BELOW dT WITH DIAERESIS dW WITH RING ABOVE dY WITH RING ABOVE dA WITH RIGHT HALF
RING dLONG S WITH DOT ABOVE gDIAGONAL STROKE gHIGH STROKE bCAPITAL LETTER SHARP S bSMALL LETTER
DELTA bCAPITAL LETTER A WITH DOT BELOW bSMALL LETTER A WITH DOT BELOW bCAPITAL LETTER A WITH HOOK
ABOVE bSMALL LETTER A WITH HOOK ABOVE bCAPITAL LETTER A WITH CIRCUMFLEX AND ACUTE bSMALL LETTER A
WITH CIRCUMFLEX AND ACUTE bCAPITAL LETTER A WITH CIRCUMFLEX AND GRAVE bSMALL LETTER A WITH
CIRCUMFLEX AND GRAVE bCAPITAL LETTER A WITH CIRCUMFLEX AND HOOK ABOVE bSMALL LETTER A WITH
CIRCUMFLEX AND HOOK ABOVE bCAPITAL LETTER A WITH CIRCUMFLEX AND TILDE bSMALL LETTER A WITH
CIRCUMFLEX AND TILDE bCAPITAL LETTER A WITH CIRCUMFLEX AND DOT BELOW bSMALL LETTER A WITH
CIRCUMFLEX AND DOT BELOW bCAPITAL LETTER A WITH BREVE AND ACUTE bSMALL LETTER A WITH BREVE AND
ACUTE bCAPITAL LETTER A WITH BREVE AND GRAVE bSMALL LETTER A WITH BREVE AND GRAVE bCAPITAL LETTER A
WITH BREVE AND HOOK ABOVE bSMALL LETTER A WITH BREVE AND HOOK ABOVE bCAPITAL LETTER A WITH BREVE
AND TILDE bSMALL LETTER A WITH BREVE AND TILDE bCAPITAL LETTER A WITH BREVE AND DOT BELOW bSMALL
LETTER A WITH BREVE AND DOT BELOW bCAPITAL LETTER E WITH DOT BELOW bSMALL LETTER E WITH DOT BELOW
bCAPITAL LETTER E WITH HOOK ABOVE bSMALL LETTER E WITH HOOK ABOVE bCAPITAL LETTER E WITH TILDE
bSMALL LETTER E WITH TILDE bCAPITAL LETTER E WITH CIRCUMFLEX AND ACUTE bSMALL LETTER E WITH
CIRCUMFLEX AND ACUTE bCAPITAL LETTER E WITH CIRCUMFLEX AND GRAVE bSMALL LETTER E WITH CIRCUMFLEX
AND GRAVE bCAPITAL LETTER E WITH CIRCUMFLEX AND HOOK ABOVE bSMALL LETTER E WITH CIRCUMFLEX AND HOOK
ABOVE bCAPITAL LETTER E WITH CIRCUMFLEX AND TILDE bSMALL LETTER E WITH CIRCUMFLEX AND TILDE
bCAPITAL LETTER E WITH CIRCUMFLEX AND DOT BELOW bSMALL LETTER E WITH CIRCUMFLEX AND DOT BELOW
bCAPITAL LETTER I WITH HOOK ABOVE bSMALL LETTER I WITH HOOK ABOVE bCAPITAL LETTER I WITH DOT BELOW
bSMALL LETTER I WITH DOT BELOW bCAPITAL LETTER O WITH DOT BELOW bSMALL LETTER O WITH DOT BELOW
bCAPITAL LETTER O WITH HOOK ABOVE bSMALL LETTER O WITH HOOK ABOVE bCAPITAL LETTER O WITH CIRCUMFLEX
AND ACUTE bSMALL LETTER O WITH CIRCUMFLEX AND ACUTE bCAPITAL LETTER O WITH CIRCUMFLEX AND GRAVE
bSMALL LETTER O WITH CIRCUMFLEX AND GRAVE bCAPITAL LETTER O WITH CIRCUMFLEX AND HOOK ABOVE bSMALL
LETTER O WITH CIRCUMFLEX AND HOOK ABOVE bCAPITAL LETTER O WITH CIRCUMFLEX AND TILDE bSMALL LETTER O
WITH CIRCUMFLEX AND TILDE bCAPITAL LETTER O WITH CIRCUMFLEX AND DOT BELOW bSMALL LETTER O WITH
CIRCUMFLEX AND DOT BELOW bCAPITAL LETTER O WITH HORN AND ACUTE bSMALL LETTER O WITH HORN AND ACUTE
bCAPITAL LETTER O WITH HORN AND GRAVE bSMALL LETTER O WITH HORN AND GRAVE bCAPITAL LETTER O WITH
HORN AND HOOK ABOVE bSMALL LETTER O WITH HORN AND HOOK ABOVE bCAPITAL LETTER O WITH HORN AND TILDE
bSMALL LETTER O WITH HORN AND TILDE bCAPITAL LETTER O WITH HORN AND DOT BELOW bSMALL LETTER O WITH
HORN AND DOT BELOW bCAPITAL LETTER U WITH DOT BELOW bSMALL LETTER U WITH DOT BELOW bCAPITAL LETTER
U WITH HOOK ABOVE bSMALL LETTER U WITH HOOK ABOVE bCAPITAL LETTER U WITH HORN AND ACUTE bSMALL
LETTER U WITH HORN AND ACUTE bCAPITAL LETTER U WITH HORN AND GRAVE bSMALL LETTER U WITH HORN AND
GRAVE bCAPITAL LETTER U WITH HORN AND HOOK ABOVE bSMALL LETTER U WITH HORN AND HOOK ABOVE bCAPITAL
LETTER U WITH HORN AND TILDE bSMALL LETTER U WITH HORN AND TILDE bCAPITAL LETTER U WITH HORN AND
DOT BELOW bSMALL LETTER U WITH HORN AND DOT BELOW bCAPITAL LETTER Y WITH GRAVE bSMALL LETTER Y WITH
GRAVE bCAPITAL LETTER Y WITH DOT BELOW bSMALL LETTER Y WITH DOT BELOW bCAPITAL LETTER Y WITH HOOK
ABOVE bSMALL LETTER Y WITH HOOK ABOVE bCAPITAL LETTER Y WITH TILDE bSMALL LETTER Y WITH TILDE
bCAPITAL LETTER MIDDLE-WELSH LL bSMALL LETTER MIDDLE-WELSH LL bCAPITAL LETTER MIDDLE-WELSH V bSMALL
LETTER MIDDLE-WELSH V bCAPITAL LETTER Y WITH LOOP"

private def europeanNames5 : String := "
=1EFF aLATIN SMALL LETTER Y WITH LOOP aGREEK SMALL LETTER ALPHA WITH PSILI fDASIA fPSILI AND VARIA
fDASIA AND VARIA fPSILI AND OXIA fDASIA AND OXIA fPSILI AND PERISPOMENI fDASIA AND PERISPOMENI
bCAPITAL LETTER ALPHA WITH PSILI fDASIA fPSILI AND VARIA fDASIA AND VARIA fPSILI AND OXIA fDASIA
AND OXIA fPSILI AND PERISPOMENI fDASIA AND PERISPOMENI bSMALL LETTER EPSILON WITH PSILI fDASIA
fPSILI AND VARIA fDASIA AND VARIA fPSILI AND OXIA fDASIA AND OXIA =1F18 bCAPITAL LETTER EPSILON
WITH PSILI fDASIA fPSILI AND VARIA fDASIA AND VARIA fPSILI AND OXIA fDASIA AND OXIA =1F20 bSMALL
LETTER ETA WITH PSILI fDASIA fPSILI AND VARIA fDASIA AND VARIA fPSILI AND OXIA fDASIA AND OXIA
fPSILI AND PERISPOMENI fDASIA AND PERISPOMENI bCAPITAL LETTER ETA WITH PSILI fDASIA fPSILI AND
VARIA fDASIA AND VARIA fPSILI AND OXIA fDASIA AND OXIA fPSILI AND PERISPOMENI fDASIA AND
PERISPOMENI bSMALL LETTER IOTA WITH PSILI fDASIA fPSILI AND VARIA fDASIA AND VARIA fPSILI AND OXIA
fDASIA AND OXIA fPSILI AND PERISPOMENI fDASIA AND PERISPOMENI bCAPITAL LETTER IOTA WITH PSILI
fDASIA fPSILI AND VARIA fDASIA AND VARIA fPSILI AND OXIA fDASIA AND OXIA fPSILI AND PERISPOMENI
fDASIA AND PERISPOMENI bSMALL LETTER OMICRON WITH PSILI fDASIA fPSILI AND VARIA fDASIA AND VARIA
fPSILI AND OXIA fDASIA AND OXIA =1F48 bCAPITAL LETTER OMICRON WITH PSILI fDASIA fPSILI AND VARIA
fDASIA AND VARIA fPSILI AND OXIA fDASIA AND OXIA =1F50 bSMALL LETTER UPSILON WITH PSILI fDASIA
fPSILI AND VARIA fDASIA AND VARIA fPSILI AND OXIA fDASIA AND OXIA fPSILI AND PERISPOMENI fDASIA AND
PERISPOMENI =1F59 bCAPITAL LETTER UPSILON WITH DASIA =1F5B gAND VARIA =1F5D hOXIA =1F5F
hPERISPOMENI bSMALL LETTER OMEGA WITH PSILI fDASIA fPSILI AND VARIA fDASIA AND VARIA fPSILI AND
OXIA fDASIA AND OXIA fPSILI AND PERISPOMENI fDASIA AND PERISPOMENI bCAPITAL LETTER OMEGA WITH PSILI
fDASIA fPSILI AND VARIA fDASIA AND VARIA fPSILI AND OXIA fDASIA AND OXIA fPSILI AND PERISPOMENI
fDASIA AND PERISPOMENI bSMALL LETTER ALPHA WITH VARIA fOXIA dEPSILON WITH VARIA fOXIA dETA WITH
VARIA fOXIA dIOTA WITH VARIA fOXIA dOMICRON WITH VARIA fOXIA dUPSILON WITH VARIA fOXIA dOMEGA WITH
VARIA fOXIA =1F80 dALPHA WITH PSILI AND YPOGEGRAMMENI fDASIA AND YPOGEGRAMMENI fPSILI AND VARIA AND
YPOGEGRAMMENI fDASIA AND VARIA AND YPOGEGRAMMENI fPSILI AND OXIA AND YPOGEGRAMMENI fDASIA AND OXIA
AND YPOGEGRAMMENI fPSILI AND PERISPOMENI AND YPOGEGRAMMENI fDASIA AND PERISPOMENI AND YPOGEGRAMMENI
bCAPITAL LETTER ALPHA WITH PSILI AND PROSGEGRAMMENI fDASIA AND PROSGEGRAMMENI fPSILI AND VARIA AND
PROSGEGRAMMENI fDASIA AND VARIA AND PROSGEGRAMMENI fPSILI AND OXIA AND PROSGEGRAMMENI fDASIA AND
OXIA AND PROSGEGRAMMENI fPSILI AND PERISPOMENI AND PROSGEGRAMMENI fDASIA AND PERISPOMENI AND
PROSGEGRAMMENI bSMALL LETTER ETA WITH PSILI AND YPOGEGRAMMENI fDASIA AND YPOGEGRAMMENI fPSILI AND
VARIA AND YPOGEGRAMMENI fDASIA AND VARIA AND YPOGEGRAMMENI fPSILI AND OXIA AND YPOGEGRAMMENI fDASIA
AND OXIA AND YPOGEGRAMMENI fPSILI AND PERISPOMENI AND YPOGEGRAMMENI fDASIA AND PERISPOMENI AND
YPOGEGRAMMENI bCAPITAL LETTER ETA WITH PSILI AND PROSGEGRAMMENI fDASIA AND PROSGEGRAMMENI fPSILI
AND VARIA AND PROSGEGRAMMENI fDASIA AND VARIA AND PROSGEGRAMMENI fPSILI AND OXIA AND PROSGEGRAMMENI
fDASIA AND OXIA AND PROSGEGRAMMENI fPSILI AND PERISPOMENI AND PROSGEGRAMMENI fDASIA AND PERISPOMENI
AND PROSGEGRAMMENI bSMALL LETTER OMEGA WITH PSILI AND YPOGEGRAMMENI fDASIA AND YPOGEGRAMMENI fPSILI
AND VARIA AND YPOGEGRAMMENI fDASIA AND VARIA AND YPOGEGRAMMENI fPSILI AND OXIA AND YPOGEGRAMMENI
fDASIA AND OXIA AND YPOGEGRAMMENI fPSILI AND PERISPOMENI AND YPOGEGRAMMENI fDASIA AND PERISPOMENI
AND YPOGEGRAMMENI bCAPITAL LETTER OMEGA WITH PSILI AND PROSGEGRAMMENI fDASIA AND PROSGEGRAMMENI
fPSILI AND VARIA AND PROSGEGRAMMENI fDASIA AND VARIA AND PROSGEGRAMMENI fPSILI AND OXIA AND
PROSGEGRAMMENI fDASIA AND OXIA AND PROSGEGRAMMENI fPSILI AND PERISPOMENI AND PROSGEGRAMMENI fDASIA
AND PERISPOMENI AND PROSGEGRAMMENI bSMALL LETTER ALPHA WITH VRACHY fMACRON fVARIA AND YPOGEGRAMMENI
fYPOGEGRAMMENI fOXIA AND YPOGEGRAMMENI =1FB6 fPERISPOMENI gAND YPOGEGRAMMENI bCAPITAL LETTER ALPHA
WITH VRACHY fMACRON fVARIA fOXIA fPROSGEGRAMMENI bKORONIS bPROSGEGRAMMENI bPSILI bPERISPOMENI
bDIALYTIKA AND PERISPOMENI bSMALL LETTER ETA WITH VARIA AND YPOGEGRAMMENI fYPOGEGRAMMENI fOXIA AND
YPOGEGRAMMENI =1FC6 fPERISPOMENI gAND YPOGEGRAMMENI bCAPITAL LETTER EPSILON WITH VARIA fOXIA dETA
WITH VARIA fOXIA fPROSGEGRAMMENI bPSILI AND VARIA dOXIA dPERISPOMENI bSMALL LETTER IOTA WITH VRACHY
fMACRON fDIALYTIKA AND VARIA hOXIA =1FD6 fPERISPOMENI fDIALYTIKA AND PERISPOMENI bCAPITAL LETTER
IOTA WITH VRACHY fMACRON fVARIA fOXIA =1FDD bDASIA AND VARIA dOXIA dPERISPOMENI bSMALL LETTER
UPSILON WITH VRACHY fMACRON fDIALYTIKA AND VARIA hOXIA dRHO WITH PSILI fDASIA dUPSILON WITH
PERISPOMENI fDIALYTIKA AND PERISPOMENI bCAPITAL LETTER UPSILON WITH VRACHY fMACRON fVARIA fOXIA
dRHO WITH DASIA bDIALYTIKA AND VARIA dOXIA bVARIA =1FF2 bSMALL LETTER OMEGA WITH VARIA AND
YPOGEGRAMMENI fYPOGEGRAMMENI fOXIA AND YPOGEGRAMMENI =1FF6 fPERISPOMENI gAND YPOGEGRAMMENI bCAPITAL
LETTER OMICRON WITH VARIA fOXIA dOMEGA WITH VARIA fOXIA fPROSGEGRAMMENI bOXIA bDASIA"

/-- The names of these code points, in pieces. -/
def europeanNames : List String :=
  [europeanNames1, europeanNames2, europeanNames3, europeanNames4, europeanNames5]

end ToolPolicy.NameTable
