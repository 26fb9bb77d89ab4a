/-!
# East Asian letters and signs, and later additions

Radicals, kana, Yi syllables and extensions of other scripts. The names are written as
`CodePoint.findName?` reads them.
-/

namespace ToolPolicy.NameTable

private def easternNames1 : String := "
=2C00 aGLAGOLITIC CAPITAL LETTER AZU dBUKY dVEDE dGLAGOLI dDOBRO dYESTU dZHIVETE dDZELO dZEMLJA
dIZHE dINITIAL IZHE dI dDJERVI dKAKO dLJUDIJE dMYSLITE dNASHI dONU dPOKOJI dRITSI dSLOVO dTVRIDO
dUKU dFRITU dHERU dOTU dPE dSHTA dTSI dCHRIVI dSHA dYERU dYERI dYATI dSPIDERY HA dYU dSMALL YUS
fWITH TAIL dYO dIOTATED SMALL YUS dBIG YUS dIOTATED BIG YUS dFITA dIZHITSA dSHTAPIC dTROKUTASTI A
dLATINATE MYSLITE dCAUDATE CHRIVI bSMALL LETTER AZU dBUKY dVEDE dGLAGOLI dDOBRO dYESTU dZHIVETE
dDZELO dZEMLJA dIZHE dINITIAL IZHE dI dDJERVI dKAKO dLJUDIJE dMYSLITE dNASHI dONU dPOKOJI dRITSI
dSLOVO dTVRIDO dUKU dFRITU dHERU dOTU dPE dSHTA dTSI dCHRIVI dSHA dYERU dYERI dYATI dSPIDERY HA dYU
dSMALL YUS fWITH TAIL dYO dIOTATED SMALL YUS dBIG YUS dIOTATED BIG YUS dFITA dIZHITSA dSHTAPIC
dTROKUTASTI A dLATINATE MYSLITE dCAUDATE CHRIVI aLATIN CAPITAL LETTER L WITH DOUBLE BAR bSMALL
LETTER L WITH DOUBLE BAR bCAPITAL LETTER L WITH MIDDLE TILDE dP WITH STROKE dR WITH TAIL bSMALL
LETTER A WITH STROKE dT WITH DIAGONAL STROKE bCAPITAL LETTER H WITH DESCENDER bSMALL LETTER H WITH
DESCENDER bCAPITAL LETTER K WITH DESCENDER bSMALL LETTER K WITH DESCENDER bCAPITAL LETTER Z WITH
DESCENDER bSMALL LETTER Z WITH DESCENDER bCAPITAL LETTER ALPHA dM WITH HOOK dTURNED A eALPHA bSMALL
LETTER V WITH RIGHT HOOK bCAPITAL LETTER W WITH HOOK bSMALL LETTER W WITH HOOK dV WITH CURL
bCAPITAL LETTER HALF H bSMALL LETTER HALF H dTAILLESS PHI dE WITH NOTCH dTURNED R WITH TAIL dO WITH
LOW RING INSIDE bLETTER SMALL CAPITAL TURNED E bSUBSCRIPT SMALL LETTER J aMODIFIER LETTER CAPITAL V
aLATIN CAPITAL LETTER S WITH SWASH TAIL dZ WITH SWASH TAIL aCOPTIC CAPITAL LETTER ALFA bSMALL
LETTER ALFA bCAPITAL LETTER VIDA bSMALL LETTER VIDA bCAPITAL LETTER GAMMA bSMALL LETTER GAMMA
bCAPITAL LETTER DALDA bSMALL LETTER DALDA bCAPITAL LETTER EIE bSMALL LETTER EIE bCAPITAL LETTER SOU
bSMALL LETTER SOU bCAPITAL LETTER ZATA bSMALL LETTER ZATA bCAPITAL LETTER HATE bSMALL LETTER HATE
bCAPITAL LETTER THETHE bSMALL LETTER THETHE bCAPITAL LETTER IAUDA bSMALL LETTER IAUDA bCAPITAL
LETTER KAPA bSMALL LETTER KAPA bCAPITAL LETTER LAULA bSMALL LETTER LAULA bCAPITAL LETTER MI bSMALL
LETTER MI bCAPITAL LETTER NI bSMALL LETTER NI bCAPITAL LETTER KSI bSMALL LETTER KSI bCAPITAL LETTER
O bSMALL LETTER O bCAPITAL LETTER PI bSMALL LETTER PI bCAPITAL LETTER RO bSMALL LETTER RO bCAPITAL
LETTER SIMA bSMALL LETTER SIMA bCAPITAL LETTER TAU bSMALL LETTER TAU bCAPITAL LETTER UA bSMALL
LETTER UA bCAPITAL LETTER FI bSMALL LETTER FI bCAPITAL LETTER KHI bSMALL LETTER KHI bCAPITAL LETTER
PSI bSMALL LETTER PSI bCAPITAL LETTER OOU bSMALL LETTER OOU bCAPITAL LETTER DIALECT-P ALEF bSMALL
LETTER DIALECT-P ALEF bCAPITAL LETTER OLD COPTIC AIN bSMALL LETTER OLD COPTIC AIN bCAPITAL LETTER
CRYPTOGRAMMIC EIE bSMALL LETTER CRYPTOGRAMMIC EIE bCAPITAL LETTER DIALECT-P KAPA bSMALL LETTER
DIALECT-P KAPA bCAPITAL LETTER DIALECT-P NI bSMALL LETTER DIALECT-P NI bCAPITAL LETTER
CRYPTOGRAMMIC NI bSMALL LETTER CRYPTOGRAMMIC NI bCAPITAL LETTER OLD COPTIC OOU bSMALL LETTER OLD
COPTIC OOU bCAPITAL LETTER SAMPI bSMALL LETTER SAMPI bCAPITAL LETTER CROSSED SHEI bSMALL LETTER
CROSSED SHEI bCAPITAL LETTER OLD COPTIC SHEI bSMALL LETTER OLD COPTIC SHEI bCAPITAL LETTER OLD
COPTIC ESH bSMALL LETTER OLD COPTIC ESH bCAPITAL LETTER AKHMIMIC KHEI bSMALL LETTER AKHMIMIC KHEI
bCAPITAL LETTER DIALECT-P HORI bSMALL LETTER DIALECT-P HORI bCAPITAL LETTER OLD COPTIC HORI bSMALL
LETTER OLD COPTIC HORI bCAPITAL LETTER OLD COPTIC HA bSMALL LETTER OLD COPTIC HA bCAPITAL LETTER
L-SHAPED HA bSMALL LETTER L-SHAPED HA bCAPITAL LETTER OLD COPTIC HEI bSMALL LETTER OLD COPTIC HEI
bCAPITAL LETTER OLD COPTIC HAT bSMALL LETTER OLD COPTIC HAT bCAPITAL LETTER OLD COPTIC GANGIA
bSMALL LETTER OLD COPTIC GANGIA bCAPITAL LETTER OLD COPTIC DJA bSMALL LETTER OLD COPTIC DJA
bCAPITAL LETTER OLD COPTIC SHIMA bSMALL LETTER OLD COPTIC SHIMA bCAPITAL LETTER OLD NUBIAN SHIMA
bSMALL LETTER OLD NUBIAN SHIMA bCAPITAL LETTER OLD NUBIAN NGI bSMALL LETTER OLD NUBIAN NGI bCAPITAL
LETTER OLD NUBIAN NYI bSMALL LETTER OLD NUBIAN NYI bCAPITAL LETTER OLD NUBIAN WAU bSMALL LETTER OLD
NUBIAN WAU bSYMBOL KAI cMI RO cPI RO cSTAUROS cTAU RO cKHI RO cSHIMA SIMA bCAPITAL LETTER
CRYPTOGRAMMIC SHEI bSMALL LETTER CRYPTOGRAMMIC SHEI bCAPITAL LETTER CRYPTOGRAMMIC GANGIA bSMALL
LETTER CRYPTOGRAMMIC GANGIA bCOMBINING NI ABOVE cSPIRITUS ASPER dLENIS bCAPITAL LETTER BOHAIRIC
KHEI bSMALL LETTER BOHAIRIC KHEI =2CF9 bOLD NUBIAN FULL STOP dDIRECT QUESTION MARK dINDIRECT
QUESTION MARK dVERSE DIVIDER bFRACTION ONE HALF bFULL STOP bMORPHOLOGICAL DIVIDER aGEORGIAN SMALL
LETTER AN dBAN dGAN dDON dEN dVIN dZEN dTAN dIN dKAN dLAS dMAN dNAR dON dPAR dZHAR dRAE dSAN dTAR
dUN dPHAR dKHAR dGHAN dQAR dSHIN dCHIN dCAN dJIL dCIL dCHAR dXAN dJHAN dHAE dHE dHIE dWE dHAR dHOE
=2D27 dYN =2D2D dAEN =2D30 aTIFINAGH LETTER YA cYAB cYABH cYAG cYAGHH cBERBER ACADEMY YAJ cYAJ cYAD
cYADH cYADD cYADDH cYEY cYAF cYAK cTUAREG YAK cYAKHH cYAH cBERBER ACADEMY YAH cTUAREG YAH cYAHH
cYAA cYAKH cTUAREG YAKH cYAQ cTUAREG YAQ cYI cYAZH cAHAGGAR YAZH cTUAREG YAZH cYAL cYAM cYAN
cTUAREG YAGN dYANG cYAP cYU cYAR cYARR cYAGH cTUAREG YAGH cAYER YAGH cYAS cYASS cYASH cYAT cYATH
cYACH cYATT cYAV cYAW cYAY cYAZ cTAWELLEMET YAZ cYAZZ cYE cYO =2D6F bMODIFIER LETTER LABIALIZATION
MARK bSEPARATOR MARK =2D7F bCONSONANT JOINER aETHIOPIC SYLLABLE LOA cMOA cROA cSOA cSHOA cBOA cTOA
cCOA cNOA cNYOA cGLOTTAL OA cZOA cDOA cDDOA cJOA cTHOA cCHOA cPHOA cPOA cGGWA cGGWI cGGWEE cGGWE
=2DA0 cSSA cSSU cSSI cSSAA cSSEE cSSE cSSO =2DA8 cCCA cCCU cCCI cCCAA cCCEE cCCE cCCO =2DB0 cZZA
cZZU cZZI cZZAA cZZEE cZZE cZZO =2DB8 cCCHA cCCHU cCCHI cCCHAA cCCHEE cCCHE cCCHO =2DC0 cQYA cQYU
cQYI cQYAA cQYEE cQYE cQYO =2DC8 cKYA cKYU cKYI cKYAA cKYEE cKYE cKYO =2DD0 cXYA cXYU cXYI cXYAA
cXYEE cXYE cXYO =2DD8 cGYA cGYU cGYI cGYAA cGYEE cGYE cGYO =2DE0 aCOMBINING CYRILLIC LETTER BE dVE
dGHE dDE dZHE dZE dKA dEL dEM dEN dO dPE dER dES dTE dHA dTSE dCHE dSHA dSHCHA dFITA dES-TE dA dIE
dDJERV dMONOGRAPH UK dYAT dYU dIOTIFIED A dLITTLE YUS dBIG YUS dIOTIFIED BIG YUS aRIGHT ANGLE
SUBSTITUTION MARKER cDOTTED SUBSTITUTION MARKER aLEFT SUBSTITUTION BRACKET aRIGHT SUBSTITUTION
BRACKET aLEFT DOTTED SUBSTITUTION BRACKET aRIGHT DOTTED SUBSTITUTION BRACKET aRAISED INTERPOLATION
MARKER bDOTTED INTERPOLATION MARKER aDOTTED TRANSPOSITION MARKER aLEFT TRANSPOSITION BRACKET aRIGHT
TRANSPOSITION BRACKET aRAISED SQUARE aLEFT RAISED OMISSION BRACKET aRIGHT RAISED OMISSION BRACKET
aEDITORIAL CORONIS aPARAGRAPHOS aFORKED PARAGRAPHOS aREVERSED FORKED PARAGRAPHOS aHYPODIASTOLE
aDOTTED OBELOS aDOWNWARDS ANCORA aUPWARDS ANCORA aDOTTED RIGHT-POINTING ANGLE aDOUBLE OBLIQUE
HYPHEN aINVERTED INTERROBANG aPALM BRANCH aHYPHEN WITH DIAERESIS aTILDE WITH RING ABOVE aLEFT LOW
PARAPHRASE BRACKET aRIGHT LOW PARAPHRASE BRACKET aTILDE WITH DOT ABOVE dBELOW aLEFT VERTICAL BAR
WITH QUILL aRIGHT VERTICAL BAR WITH QUILL aTOP LEFT HALF BRACKET bRIGHT HALF BRACKET aBOTTOM LEFT
HALF BRACKET bRIGHT HALF BRACKET aLEFT SIDEWAYS U BRACKET aRIGHT SIDEWAYS U BRACKET aLEFT DOUBLE
PARENTHESIS aRIGHT DOUBLE PARENTHESIS aTWO DOTS OVER ONE DOT PUNCTUATION aONE DOT OVER TWO DOTS
PUNCTUATION aSQUARED FOUR DOT PUNCTUATION aFIVE DOT MARK aREVERSED QUESTION MARK aVERTICAL TILDE
aRING POINT aWORD SEPARATOR MIDDLE DOT aTURNED COMMA aRAISED DOT bCOMMA aTURNED SEMICOLON aDAGGER
WITH LEFT GUARD cRIGHT GUARD aTURNED DAGGER aTOP HALF SECTION SIGN aTWO-EM DASH aTHREE-EM DASH
aSTENOGRAPHIC FULL STOP aVERTICAL SIX DOTS aWIGGLY VERTICAL LINE aCAPITULUM aDOUBLE HYPHEN
aREVERSED COMMA aDOUBLE LOW-REVERSED-9 QUOTATION MARK aDASH WITH LEFT UPTURN aDOUBLE SUSPENSION
MARK aINVERTED LOW KAVYKA dWITH KAVYKA ABOVE aLOW KAVYKA cWITH DOT aDOUBLE STACKED COMMA aDOTTED
SOLIDUS aTRIPLE DAGGER aMEDIEVAL COMMA aPARAGRAPHUS MARK aPUNCTUS ELEVATUS MARK aCORNISH VERSE
DIVIDER aCROSS PATTY WITH RIGHT CROSSBAR dLEFT CROSSBAR aTIRONIAN SIGN CAPITAL ET aMEDIEVAL
EXCLAMATION MARK bQUESTION MARK aLEFT SQUARE BRACKET WITH STROKE aRIGHT SQUARE BRACKET WITH STROKE
aLEFT SQUARE BRACKET WITH DOUBLE STROKE aRIGHT SQUARE BRACKET WITH DOUBLE STROKE aTOP HALF LEFT
PARENTHESIS cRIGHT PARENTHESIS aBOTTOM HALF LEFT PARENTHESIS cRIGHT PARENTHESIS aOBLIQUE HYPHEN
=2E80 aCJK RADICAL REPEAT cCLIFF cSECOND ONE dTWO dTHREE"

private def easternNames2 : String := "
=2E85 aCJK RADICAL PERSON cBOX cTABLE cKNIFE ONE dTWO cDIVINATION cSEAL cSMALL ONE dTWO cLAME ONE
dTWO dTHREE dFOUR cSNAKE cTHREAD cSNOUT ONE dTWO cHEART ONE dTWO cHAND cRAP =2E9B cCHOKE cSUN cMOON
cDEATH cMOTHER cCIVILIAN cWATER ONE dTWO cFIRE cPAW ONE dTWO cSIMPLIFIED HALF TREE TRUNK cCOW cDOG
cJADE cBOLT OF CLOTH cEYE cSPIRIT ONE dTWO cBAMBOO cSILK cC-SIMPLIFIED SILK cNET ONE dTWO dTHREE
dFOUR cMESH cSHEEP cRAM cEWE cOLD cBRUSH ONE dTWO cMEAT cMORTAR cGRASS ONE dTWO dTHREE cTIGER
cCLOTHES cWEST ONE dTWO cC-SIMPLIFIED SEE cSIMPLIFIED HORN cHORN cC-SIMPLIFIED SPEECH dSHELL cFOOT
cC-SIMPLIFIED CART cSIMPLIFIED WALK cWALK ONE dTWO cCITY cC-SIMPLIFIED GOLD cLONG ONE dTWO
cC-SIMPLIFIED LONG dGATE cMOUND ONE dTWO cRAIN cBLUE cC-SIMPLIFIED TANNED LEATHER dLEAF dWIND dFLY
cEAT ONE dTWO dTHREE cC-SIMPLIFIED EAT cHEAD cC-SIMPLIFIED HORSE cBONE cGHOST cC-SIMPLIFIED FISH
dBIRD dSALT cSIMPLIFIED WHEAT dYELLOW cC-SIMPLIFIED FROG cJ-SIMPLIFIED EVEN cC-SIMPLIFIED EVEN
cJ-SIMPLIFIED TOOTH cC-SIMPLIFIED TOOTH cJ-SIMPLIFIED DRAGON cC-SIMPLIFIED DRAGON cTURTLE
cJ-SIMPLIFIED TURTLE cC-SIMPLIFIED TURTLE =2F00 aKANGXI RADICAL ONE cLINE cDOT cSLASH cSECOND cHOOK
cTWO cLID cMAN cLEGS cENTER cEIGHT cDOWN BOX cCOVER cICE cTABLE cOPEN BOX cKNIFE cPOWER cWRAP
cSPOON cRIGHT OPEN BOX cHIDING ENCLOSURE cTEN cDIVINATION cSEAL cCLIFF cPRIVATE cAGAIN cMOUTH
cENCLOSURE cEARTH cSCHOLAR cGO dSLOWLY cEVENING cBIG cWOMAN cCHILD cROOF cINCH cSMALL cLAME cCORPSE
cSPROUT cMOUNTAIN cRIVER cWORK cONESELF cTURBAN cDRY cSHORT THREAD cDOTTED CLIFF cLONG STRIDE cTWO
HANDS cSHOOT cBOW cSNOUT cBRISTLE cSTEP cHEART cHALBERD cDOOR cHAND cBRANCH cRAP cSCRIPT cDIPPER
cAXE cSQUARE cNOT cSUN cSAY cMOON cTREE cLACK cSTOP cDEATH cWEAPON cDO NOT cCOMPARE cFUR cCLAN
cSTEAM cWATER cFIRE cCLAW cFATHER cDOUBLE X cHALF TREE TRUNK cSLICE cFANG cCOW cDOG cPROFOUND cJADE
cMELON cTILE cSWEET cLIFE cUSE cFIELD cBOLT OF CLOTH cSICKNESS cDOTTED TENT cWHITE cSKIN cDISH cEYE
cSPEAR cARROW cSTONE cSPIRIT cTRACK cGRAIN cCAVE cSTAND cBAMBOO cRICE cSILK cJAR cNET cSHEEP
cFEATHER cOLD cAND cPLOW cEAR cBRUSH cMEAT cMINISTER cSELF cARRIVE cMORTAR cTONGUE cOPPOSE cBOAT
cSTOPPING cCOLOR cGRASS cTIGER cINSECT cBLOOD cWALK ENCLOSURE cCLOTHES cWEST cSEE cHORN cSPEECH
cVALLEY cBEAN cPIG cBADGER cSHELL cRED cRUN cFOOT cBODY cCART cBITTER cMORNING cWALK cCITY cWINE
cDISTINGUISH cVILLAGE cGOLD cLONG cGATE cMOUND cSLAVE cSHORT TAILED BIRD cRAIN cBLUE cWRONG cFACE
cLEATHER cTANNED LEATHER cLEEK cSOUND cLEAF cWIND cFLY cEAT cHEAD cFRAGRANT cHORSE cBONE cTALL
cHAIR cFIGHT cSACRIFICIAL WINE cCAULDRON cGHOST cFISH cBIRD cSALT cDEER cWHEAT cHEMP cYELLOW
cMILLET cBLACK cEMBROIDERY cFROG cTRIPOD cDRUM cRAT cNOSE cEVEN cTOOTH cDRAGON cTURTLE cFLUTE =2FF0
aIDEOGRAPHIC DESCRIPTION CHARACTER LEFT TO RIGHT dABOVE TO BELOW dLEFT TO MIDDLE AND RIGHT dABOVE
TO MIDDLE AND BELOW dFULL SURROUND dSURROUND FROM ABOVE fBELOW fLEFT fUPPER LEFT gRIGHT fLOWER LEFT
dOVERLAID =3000 bSPACE bCOMMA bFULL STOP aDITTO MARK aJAPANESE INDUSTRIAL STANDARD SYMBOL
aIDEOGRAPHIC ITERATION MARK bCLOSING MARK bNUMBER ZERO aLEFT ANGLE BRACKET aRIGHT ANGLE BRACKET
aLEFT DOUBLE ANGLE BRACKET aRIGHT DOUBLE ANGLE BRACKET aLEFT CORNER BRACKET aRIGHT CORNER BRACKET
aLEFT WHITE CORNER BRACKET aRIGHT WHITE CORNER BRACKET aLEFT BLACK LENTICULAR BRACKET aRIGHT BLACK
LENTICULAR BRACKET aPOSTAL MARK aGETA MARK aLEFT TORTOISE SHELL BRACKET aRIGHT TORTOISE SHELL
BRACKET aLEFT WHITE LENTICULAR BRACKET aRIGHT WHITE LENTICULAR BRACKET aLEFT WHITE TORTOISE SHELL
BRACKET aRIGHT WHITE TORTOISE SHELL BRACKET aLEFT WHITE SQUARE BRACKET aRIGHT WHITE SQUARE BRACKET
aWAVE DASH aREVERSED DOUBLE PRIME QUOTATION MARK aDOUBLE PRIME QUOTATION MARK aLOW DOUBLE PRIME
QUOTATION MARK aPOSTAL MARK FACE aHANGZHOU NUMERAL ONE cTWO cTHREE cFOUR cFIVE cSIX cSEVEN cEIGHT
cNINE aIDEOGRAPHIC LEVEL TONE MARK bRISING TONE MARK bDEPARTING TONE MARK bENTERING TONE MARK
aHANGUL SINGLE DOT TONE MARK bDOUBLE DOT TONE MARK aWAVY DASH aVERTICAL KANA REPEAT MARK dWITH
VOICED SOUND MARK dMARK UPPER HALF dWITH VOICED SOUND MARK UPPER HALF dMARK LOWER HALF aCIRCLED
POSTAL MARK aIDEOGRAPHIC TELEGRAPH LINE FEED SEPARATOR SYMBOL aHANGZHOU NUMERAL TEN cTWENTY cTHIRTY
aVERTICAL IDEOGRAPHIC ITERATION MARK aMASU MARK aPART ALTERNATION MARK aIDEOGRAPHIC VARIATION
INDICATOR bHALF FILL SPACE =3041 aHIRAGANA LETTER SMALL A cA cSMALL I cI cSMALL U cU cSMALL E cE
cSMALL O cO cKA cGA cKI cGI cKU cGU cKE cGE cKO cGO cSA cZA cSI cZI cSU cZU cSE cZE cSO cZO cTA cDA
cTI cDI cSMALL TU cTU cDU cTE cDE cTO cDO cNA cNI cNU cNE cNO cHA cBA cPA cHI cBI cPI cHU cBU cPU
cHE cBE cPE cHO cBO cPO cMA cMI cMU cME cMO cSMALL YA cYA cSMALL YU cYU cSMALL YO cYO cRA cRI cRU
cRE cRO cSMALL WA cWA cWI cWE cWO cN cVU cSMALL KA dKE =3099 aCOMBINING KATAKANA-HIRAGANA VOICED
SOUND MARK cSEMI-VOICED SOUND MARK aKATAKANA-HIRAGANA VOICED SOUND MARK bSEMI-VOICED SOUND MARK
aHIRAGANA ITERATION MARK bVOICED ITERATION MARK bDIGRAPH YORI aKATAKANA-HIRAGANA DOUBLE HYPHEN
aKATAKANA LETTER SMALL A cA cSMALL I cI cSMALL U cU cSMALL E cE cSMALL O cO cKA cGA cKI cGI cKU cGU
cKE cGE cKO cGO cSA cZA cSI cZI cSU cZU cSE cZE cSO cZO cTA cDA cTI cDI cSMALL TU cTU cDU cTE cDE
cTO cDO cNA cNI cNU cNE cNO cHA cBA cPA cHI cBI cPI cHU cBU cPU cHE cBE cPE cHO cBO cPO cMA cMI cMU
cME cMO cSMALL YA cYA cSMALL YU cYU cSMALL YO cYO cRA cRI cRU cRE cRO cSMALL WA cWA cWI cWE cWO cN
cVU cSMALL KA dKE cVA cVI cVE cVO bMIDDLE DOT aKATAKANA-HIRAGANA PROLONGED SOUND MARK aKATAKANA
ITERATION MARK bVOICED ITERATION MARK bDIGRAPH KOTO =3105 aBOPOMOFO LETTER B cP cM cF cD cT cN cL
cG cK cH cJ cQ cX cZH cCH cSH cR cZ cC cS cA cO cE cEH cAI cEI cAU cOU cAN cEN cANG cENG cER cI cU
cIU cV cNG cGN cIH cO WITH DOT ABOVE cNN =3131 aHANGUL LETTER KIYEOK cSSANGKIYEOK cKIYEOK-SIOS
cNIEUN cNIEUN-CIEUC cNIEUN-HIEUH cTIKEUT cSSANGTIKEUT cRIEUL cRIEUL-KIYEOK cRIEUL-MIEUM
cRIEUL-PIEUP cRIEUL-SIOS cRIEUL-THIEUTH cRIEUL-PHIEUPH cRIEUL-HIEUH cMIEUM cPIEUP cSSANGPIEUP
cPIEUP-SIOS cSIOS cSSANGSIOS cIEUNG cCIEUC cSSANGCIEUC cCHIEUCH cKHIEUKH cTHIEUTH cPHIEUPH cHIEUH
cA cAE cYA cYAE cEO cE cYEO cYE cO cWA cWAE cOE cYO cU cWEO cWE cWI cYU cEU cYI cI bFILLER bLETTER
SSANGNIEUN cNIEUN-TIKEUT cNIEUN-SIOS cNIEUN-PANSIOS cRIEUL-KIYEOK-SIOS cRIEUL-TIKEUT
cRIEUL-PIEUP-SIOS cRIEUL-PANSIOS cRIEUL-YEORINHIEUH cMIEUM-PIEUP cMIEUM-SIOS cMIEUM-PANSIOS
cKAPYEOUNMIEUM cPIEUP-KIYEOK cPIEUP-TIKEUT cPIEUP-SIOS-KIYEOK cPIEUP-SIOS-TIKEUT cPIEUP-CIEUC
cPIEUP-THIEUTH cKAPYEOUNPIEUP cKAPYEOUNSSANGPIEUP cSIOS-KIYEOK cSIOS-NIEUN cSIOS-TIKEUT cSIOS-PIEUP
cSIOS-CIEUC cPANSIOS cSSANGIEUNG cYESIEUNG cYESIEUNG-SIOS cYESIEUNG-PANSIOS cKAPYEOUNPHIEUPH
cSSANGHIEUH cYEORINHIEUH cYO-YA cYO-YAE cYO-I cYU-YEO cYU-YE cYU-I cARAEA cARAEAE =3190
aIDEOGRAPHIC ANNOTATION LINKING MARK cREVERSE MARK cONE MARK cTWO MARK cTHREE MARK cFOUR MARK cTOP
MARK cMIDDLE MARK cBOTTOM MARK cFIRST MARK cSECOND MARK cTHIRD MARK cFOURTH MARK cHEAVEN MARK
cEARTH MARK cMAN MARK aBOPOMOFO LETTER BU cZI cJI cGU cEE cENN cOO cONN cIR cANN cINN cUNN cIM cNGG
cAINN cAUNN cAM cOM cONG cINNN bFINAL LETTER P dT dK dH bLETTER GH cLH cZY bFINAL LETTER G bLETTER
GW cKW cOE cAH aCJK STROKE T cWG cXG cBXG cSW cHZZ cHZG cHP cHZWG cSZWG cHZT cHZZP cHPWG cHZW cHZZZ
cN cH cS cP cSP cD cHZ cHG cSZ cSWZ cST cSG cPD cPZ cTN cSZZ cSWG cHXWG cHZZZG cPG cQ =31F0
aKATAKANA LETTER SMALL KU dSI dSU dTO dNU dHA dHI dHU dHE dHO dMU dRA dRI dRU dRE dRO
aPARENTHESIZED HANGUL KIYEOK cNIEUN cTIKEUT cRIEUL cMIEUM cPIEUP cSIOS cIEUNG cCIEUC cCHIEUCH
cKHIEUKH cTHIEUTH cPHIEUPH cHIEUH cKIYEOK A cNIEUN A cTIKEUT A cRIEUL A cMIEUM A cPIEUP A cSIOS A
cIEUNG A cCIEUC A cCHIEUCH A cKHIEUKH A cTHIEUTH A cPHIEUPH A cHIEUH A cCIEUC U bKOREAN CHARACTER
OJEON dO HU =3220 bIDEOGRAPH ONE cTWO cTHREE cFOUR cFIVE cSIX cSEVEN cEIGHT cNINE cTEN cMOON cFIRE
cWATER cWOOD cMETAL cEARTH cSUN cSTOCK cHAVE cSOCIETY cNAME cSPECIAL cFINANCIAL cCONGRATULATION
cLABOR cREPRESENT cCALL cSTUDY cSUPERVISE cENTERPRISE cRESOURCE cALLIANCE cFESTIVAL cREST cSELF
cREACH aCIRCLED IDEOGRAPH QUESTION cKINDERGARTEN cSCHOOL cKOTO bNUMBER TEN ON BLACK SQUARE cTWENTY
ON BLACK SQUARE cTHIRTY ON BLACK SQUARE cFORTY ON BLACK SQUARE cFIFTY ON BLACK SQUARE cSIXTY ON
BLACK SQUARE cSEVENTY ON BLACK SQUARE cEIGHTY ON BLACK SQUARE aPARTNERSHIP SIGN aCIRCLED NUMBER
TWENTY ONE dTWO dTHREE dFOUR dFIVE dSIX dSEVEN dEIGHT dNINE cTHIRTY dONE dTWO dTHREE dFOUR"

private def easternNames3 : String := "
=325F aCIRCLED NUMBER THIRTY FIVE bHANGUL KIYEOK cNIEUN cTIKEUT cRIEUL cMIEUM cPIEUP cSIOS cIEUNG
cCIEUC cCHIEUCH cKHIEUKH cTHIEUTH cPHIEUPH cHIEUH cKIYEOK A cNIEUN A cTIKEUT A cRIEUL A cMIEUM A
cPIEUP A cSIOS A cIEUNG A cCIEUC A cCHIEUCH A cKHIEUKH A cTHIEUTH A cPHIEUPH A cHIEUH A bKOREAN
CHARACTER CHAMKO dJUEUI bHANGUL IEUNG U aKOREAN STANDARD SYMBOL aCIRCLED IDEOGRAPH ONE cTWO cTHREE
cFOUR cFIVE cSIX cSEVEN cEIGHT cNINE cTEN cMOON cFIRE cWATER cWOOD cMETAL cEARTH cSUN cSTOCK cHAVE
cSOCIETY cNAME cSPECIAL cFINANCIAL cCONGRATULATION cLABOR cSECRET cMALE cFEMALE cSUITABLE
cEXCELLENT cPRINT cATTENTION cITEM cREST cCOPY cCORRECT cHIGH cCENTRE cLOW cLEFT cRIGHT cMEDICINE
cRELIGION cSTUDY cSUPERVISE cENTERPRISE cRESOURCE cALLIANCE cNIGHT bNUMBER THIRTY SIX dSEVEN dEIGHT
dNINE cFORTY dONE dTWO dTHREE dFOUR dFIVE dSIX dSEVEN dEIGHT dNINE cFIFTY aIDEOGRAPHIC TELEGRAPH
SYMBOL FOR JANUARY eFEBRUARY eMARCH eAPRIL eMAY eJUNE eJULY eAUGUST eSEPTEMBER eOCTOBER eNOVEMBER
eDECEMBER aSQUARE HG bERG bEV aLIMITED LIABILITY SIGN aCIRCLED KATAKANA A cI cU cE cO cKA cKI cKU
cKE cKO cSA cSI cSU cSE cSO cTA cTI cTU cTE cTO cNA cNI cNU cNE cNO cHA cHI cHU cHE cHO cMA cMI cMU
cME cMO cYA cYU cYO cRA cRI cRU cRE cRO cWA cWI cWE cWO aSQUARE ERA NAME REIWA bAPAATO bARUHUA
bANPEA bAARU bININGU bINTI bUON bESUKUUDO bEEKAA bONSU bOOMU bKAIRI bKARATTO bKARORII bGARON bGANMA
bGIGA bGINII bKYURII bGIRUDAA bKIRO bKIROGURAMU bKIROMEETORU bKIROWATTO bGURAMU bGURAMUTON
bKURUZEIRO bKUROONE bKEESU bKORUNA bKOOPO bSAIKURU bSANTIIMU bSIRINGU bSENTI bSENTO bDAASU bDESI
bDORU bTON bNANO bNOTTO bHAITU bPAASENTO bPAATU bBAARERU bPIASUTORU bPIKURU bPIKO bBIRU bHUARADDO
bHUIITO bBUSSYERU bHURAN bHEKUTAARU bPESO bPENIHI bHERUTU bPENSU bPEEZI bBEETA bPOINTO bBORUTO bHON
bPONDO bHOORU bHOON bMAIKURO bMAIRU bMAHHA bMARUKU bMANSYON bMIKURON bMIRI bMIRIBAARU bMEGA
bMEGATON bMEETORU bYAADO bYAARU bYUAN bRITTORU bRIRA bRUPII bRUUBURU bREMU bRENTOGEN bWATTO
aIDEOGRAPHIC TELEGRAPH SYMBOL FOR HOUR ZERO fONE fTWO fTHREE fFOUR fFIVE fSIX fSEVEN fEIGHT fNINE
fTEN fELEVEN fTWELVE fTHIRTEEN fFOURTEEN fFIFTEEN fSIXTEEN fSEVENTEEN fEIGHTEEN fNINETEEN fTWENTY
fTWENTY-ONE fTWENTY-TWO fTWENTY-THREE fTWENTY-FOUR aSQUARE HPA bDA bAU bBAR bOV bPC bDM cSQUARED
cCUBED bIU bERA NAME HEISEI dSYOUWA dTAISYOU dMEIZI bCORPORATION bPA AMPS bNA bMU A bMA bKA bKB bMB
bGB bCAL bKCAL bPF bNF bMU F cG bMG bKG bHZ bKHZ bMHZ bGHZ bTHZ bMU L bML bDL bKL bFM bNM bMU M bMM
bCM bKM bMM SQUARED bCM SQUARED bM SQUARED bKM SQUARED bMM CUBED bCM CUBED bM CUBED bKM CUBED bM
OVER S eSQUARED bPA bKPA bMPA bGPA bRAD cOVER S eSQUARED bPS bNS bMU S bMS bPV bNV bMU V bMV bKV
bMV MEGA bPW bNW bMU W bMW bKW bMW MEGA bK OHM bM OHM bAM bBQ bCC bCD bC OVER KG bCO bDB bGY bHA
bHP bIN bKK bKM CAPITAL bKT bLM bLN bLOG bLX bMB SMALL bMIL bMOL bPH bPM bPPM bPR bSR bSV bWB bV
OVER M bA OVER M aIDEOGRAPHIC TELEGRAPH SYMBOL FOR DAY ONE fTWO fTHREE fFOUR fFIVE fSIX fSEVEN
fEIGHT fNINE fTEN fELEVEN fTWELVE fTHIRTEEN fFOURTEEN fFIFTEEN fSIXTEEN fSEVENTEEN fEIGHTEEN
fNINETEEN fTWENTY fTWENTY-ONE fTWENTY-TWO fTWENTY-THREE fTWENTY-FOUR fTWENTY-FIVE fTWENTY-SIX
fTWENTY-SEVEN fTWENTY-EIGHT fTWENTY-NINE fTHIRTY fTHIRTY-ONE aSQUARE GAL =4DC0 aHEXAGRAM FOR THE
CREATIVE HEAVEN dRECEPTIVE EARTH cDIFFICULTY AT THE BEGINNING cYOUTHFUL FOLLY cWAITING cCONFLICT
cTHE ARMY cHOLDING TOGETHER cSMALL TAMING cTREADING cPEACE cSTANDSTILL cFELLOWSHIP cGREAT
POSSESSION cMODESTY cENTHUSIASM cFOLLOWING cWORK ON THE DECAYED cAPPROACH cCONTEMPLATION cBITING
THROUGH cGRACE cSPLITTING APART cRETURN cINNOCENCE cGREAT TAMING cMOUTH CORNERS cGREAT
PREPONDERANCE cTHE ABYSMAL WATER dCLINGING FIRE cINFLUENCE cDURATION cRETREAT cGREAT POWER
cPROGRESS cDARKENING OF THE LIGHT cTHE FAMILY cOPPOSITION cOBSTRUCTION cDELIVERANCE cDECREASE
cINCREASE cBREAKTHROUGH cCOMING TO MEET cGATHERING TOGETHER cPUSHING UPWARD cOPPRESSION cTHE WELL
cREVOLUTION cTHE CAULDRON dAROUSING THUNDER dKEEPING STILL MOUNTAIN cDEVELOPMENT cTHE MARRYING
MAIDEN cABUNDANCE cTHE WANDERER dGENTLE WIND dJOYOUS LAKE cDISPERSION cLIMITATION cINNER TRUTH
cSMALL PREPONDERANCE cAFTER COMPLETION cBEFORE COMPLETION =A000 aYI SYLLABLE IT cIX cI cIP cIET
cIEX cIE cIEP cAT cAX cA cAP cUOX cUO cUOP cOT cOX cO cOP cEX cE cWU cBIT cBIX cBI cBIP cBIET cBIEX
cBIE cBIEP cBAT cBAX cBA cBAP cBUOX cBUO cBUOP cBOT cBOX cBO cBOP cBEX cBE cBEP cBUT cBUX cBU cBUP
cBURX cBUR cBYT cBYX cBY cBYP cBYRX cBYR cPIT cPIX cPI cPIP cPIEX cPIE cPIEP cPAT cPAX cPA cPAP
cPUOX cPUO cPUOP cPOT cPOX cPO cPOP cPUT cPUX cPU cPUP cPURX cPUR cPYT cPYX cPY cPYP cPYRX cPYR
cBBIT cBBIX cBBI cBBIP cBBIET cBBIEX cBBIE cBBIEP cBBAT cBBAX cBBA cBBAP cBBUOX cBBUO cBBUOP cBBOT
cBBOX cBBO cBBOP cBBEX cBBE cBBEP cBBUT cBBUX cBBU cBBUP cBBURX cBBUR cBBYT cBBYX cBBY cBBYP cNBIT
cNBIX cNBI cNBIP cNBIEX cNBIE cNBIEP cNBAT cNBAX cNBA cNBAP cNBOT cNBOX cNBO cNBOP cNBUT cNBUX cNBU
cNBUP cNBURX cNBUR cNBYT cNBYX cNBY cNBYP cNBYRX cNBYR cHMIT cHMIX cHMI cHMIP cHMIEX cHMIE cHMIEP
cHMAT cHMAX cHMA cHMAP cHMUOX cHMUO cHMUOP cHMOT cHMOX cHMO cHMOP cHMUT cHMUX cHMU cHMUP cHMURX
cHMUR cHMYX cHMY cHMYP cHMYRX cHMYR cMIT cMIX cMI cMIP cMIEX cMIE cMIEP cMAT cMAX cMA cMAP cMUOT
cMUOX cMUO cMUOP cMOT cMOX cMO cMOP cMEX cME cMUT cMUX cMU cMUP cMURX cMUR cMYT cMYX cMY cMYP cFIT
cFIX cFI cFIP cFAT cFAX cFA cFAP cFOX cFO cFOP cFUT cFUX cFU cFUP cFURX cFUR cFYT cFYX cFY cFYP
cVIT cVIX cVI cVIP cVIET cVIEX cVIE cVIEP cVAT cVAX cVA cVAP cVOT cVOX cVO cVOP cVEX cVEP cVUT cVUX
cVU cVUP cVURX cVUR cVYT cVYX cVY cVYP cVYRX cVYR cDIT cDIX cDI cDIP cDIEX cDIE cDIEP cDAT cDAX cDA
cDAP cDUOX cDUO cDOT cDOX cDO cDOP cDEX cDE cDEP cDUT cDUX cDU cDUP cDURX cDUR cTIT cTIX cTI cTIP
cTIEX cTIE cTIEP cTAT cTAX cTA cTAP cTUOT cTUOX cTUO cTUOP cTOT cTOX cTO cTOP cTEX cTE cTEP cTUT
cTUX cTU cTUP cTURX cTUR cDDIT cDDIX cDDI cDDIP cDDIEX cDDIE cDDIEP cDDAT cDDAX cDDA cDDAP cDDUOX
cDDUO cDDUOP cDDOT cDDOX cDDO cDDOP cDDEX cDDE cDDEP cDDUT cDDUX cDDU cDDUP cDDURX cDDUR cNDIT
cNDIX cNDI cNDIP cNDIEX cNDIE cNDAT cNDAX cNDA cNDAP cNDOT cNDOX cNDO cNDOP cNDEX cNDE cNDEP cNDUT
cNDUX cNDU cNDUP cNDURX cNDUR cHNIT cHNIX cHNI cHNIP cHNIET cHNIEX cHNIE cHNIEP cHNAT cHNAX cHNA
cHNAP cHNUOX cHNUO cHNOT cHNOX cHNOP cHNEX cHNE cHNEP cHNUT cNIT cNIX cNI cNIP cNIEX cNIE cNIEP
cNAX cNA cNAP cNUOX cNUO cNUOP cNOT cNOX cNO cNOP cNEX cNE cNEP cNUT cNUX cNU cNUP cNURX cNUR cHLIT
cHLIX cHLI cHLIP cHLIEX cHLIE cHLIEP cHLAT cHLAX cHLA cHLAP cHLUOX cHLUO cHLUOP cHLOX cHLO cHLOP
cHLEX cHLE cHLEP cHLUT cHLUX cHLU cHLUP cHLURX cHLUR cHLYT cHLYX cHLY cHLYP cHLYRX cHLYR cLIT cLIX
cLI cLIP cLIET cLIEX cLIE cLIEP cLAT cLAX cLA cLAP cLUOT cLUOX cLUO cLUOP cLOT cLOX cLO cLOP cLEX
cLE cLEP cLUT cLUX cLU cLUP cLURX cLUR cLYT cLYX cLY cLYP cLYRX cLYR cGIT cGIX cGI cGIP cGIET cGIEX
cGIE cGIEP cGAT cGAX cGA cGAP cGUOT cGUOX cGUO cGUOP cGOT cGOX cGO cGOP cGET cGEX cGE cGEP cGUT
cGUX cGU cGUP cGURX cGUR cKIT cKIX cKI cKIP cKIEX cKIE cKIEP cKAT cKAX cKA cKAP cKUOX cKUO cKUOP
cKOT cKOX cKO cKOP cKET cKEX cKE cKEP cKUT cKUX cKU cKUP cKURX cKUR cGGIT cGGIX cGGI cGGIEX cGGIE
cGGIEP cGGAT cGGAX cGGA cGGAP cGGUOT cGGUOX cGGUO cGGUOP cGGOT cGGOX cGGO cGGOP cGGET cGGEX cGGE
cGGEP cGGUT cGGUX cGGU cGGUP cGGURX cGGUR cMGIEX cMGIE cMGAT cMGAX cMGA cMGAP cMGUOX cMGUO cMGUOP
cMGOT cMGOX cMGO cMGOP cMGEX cMGE cMGEP cMGUT cMGUX cMGU cMGUP cMGURX cMGUR cHXIT cHXIX cHXI cHXIP
cHXIET cHXIEX cHXIE cHXIEP cHXAT cHXAX cHXA cHXAP cHXUOT cHXUOX cHXUO cHXUOP cHXOT cHXOX cHXO cHXOP
cHXEX cHXE cHXEP cNGIEX cNGIE cNGIEP cNGAT cNGAX cNGA cNGAP cNGUOT cNGUOX cNGUO cNGOT cNGOX cNGO
cNGOP cNGEX cNGE cNGEP cHIT cHIEX cHIE cHAT cHAX cHA cHAP cHUOT cHUOX cHUO cHUOP cHOT cHOX cHO cHOP
cHEX cHE cHEP cWAT cWAX cWA cWAP cWUOX cWUO cWUOP cWOX cWO cWOP cWEX cWE cWEP cZIT cZIX cZI cZIP
cZIEX cZIE cZIEP cZAT cZAX cZA cZAP cZUOX cZUO cZUOP cZOT cZOX cZO cZOP cZEX cZE cZEP cZUT cZUX cZU
cZUP cZURX cZUR cZYT cZYX cZY cZYP cZYRX cZYR cCIT cCIX cCI cCIP cCIET cCIEX cCIE cCIEP cCAT cCAX
cCA cCAP cCUOX cCUO cCUOP cCOT cCOX cCO cCOP cCEX cCE cCEP cCUT cCUX cCU cCUP cCURX cCUR cCYT cCYX
cCY cCYP cCYRX cCYR cZZIT cZZIX cZZI cZZIP cZZIET cZZIEX cZZIE cZZIEP cZZAT cZZAX cZZA cZZAP cZZOX
cZZO cZZOP cZZEX cZZE cZZEP cZZUX cZZU cZZUP cZZURX cZZUR cZZYT cZZYX cZZY cZZYP cZZYRX cZZYR cNZIT
cNZIX cNZI cNZIP cNZIEX cNZIE cNZIEP cNZAT cNZAX cNZA"

private def easternNames4 : String := "
=A2F7 aYI SYLLABLE NZAP cNZUOX cNZUO cNZOX cNZOP cNZEX cNZE cNZUX cNZU cNZUP cNZURX cNZUR cNZYT
cNZYX cNZY cNZYP cNZYRX cNZYR cSIT cSIX cSI cSIP cSIEX cSIE cSIEP cSAT cSAX cSA cSAP cSUOX cSUO
cSUOP cSOT cSOX cSO cSOP cSEX cSE cSEP cSUT cSUX cSU cSUP cSURX cSUR cSYT cSYX cSY cSYP cSYRX cSYR
cSSIT cSSIX cSSI cSSIP cSSIEX cSSIE cSSIEP cSSAT cSSAX cSSA cSSAP cSSOT cSSOX cSSO cSSOP cSSEX cSSE
cSSEP cSSUT cSSUX cSSU cSSUP cSSYT cSSYX cSSY cSSYP cSSYRX cSSYR cZHAT cZHAX cZHA cZHAP cZHUOX
cZHUO cZHUOP cZHOT cZHOX cZHO cZHOP cZHET cZHEX cZHE cZHEP cZHUT cZHUX cZHU cZHUP cZHURX cZHUR
cZHYT cZHYX cZHY cZHYP cZHYRX cZHYR cCHAT cCHAX cCHA cCHAP cCHUOT cCHUOX cCHUO cCHUOP cCHOT cCHOX
cCHO cCHOP cCHET cCHEX cCHE cCHEP cCHUX cCHU cCHUP cCHURX cCHUR cCHYT cCHYX cCHY cCHYP cCHYRX cCHYR
cRRAX cRRA cRRUOX cRRUO cRROT cRROX cRRO cRROP cRRET cRREX cRRE cRREP cRRUT cRRUX cRRU cRRUP cRRURX
cRRUR cRRYT cRRYX cRRY cRRYP cRRYRX cRRYR cNRAT cNRAX cNRA cNRAP cNROX cNRO cNROP cNRET cNREX cNRE
cNREP cNRUT cNRUX cNRU cNRUP cNRURX cNRUR cNRYT cNRYX cNRY cNRYP cNRYRX cNRYR cSHAT cSHAX cSHA
cSHAP cSHUOX cSHUO cSHUOP cSHOT cSHOX cSHO cSHOP cSHET cSHEX cSHE cSHEP cSHUT cSHUX cSHU cSHUP
cSHURX cSHUR cSHYT cSHYX cSHY cSHYP cSHYRX cSHYR cRAT cRAX cRA cRAP cRUOX cRUO cRUOP cROT cROX cRO
cROP cREX cRE cREP cRUT cRUX cRU cRUP cRURX cRUR cRYT cRYX cRY cRYP cRYRX cRYR cJIT cJIX cJI cJIP
cJIET cJIEX cJIE cJIEP cJUOT cJUOX cJUO cJUOP cJOT cJOX cJO cJOP cJUT cJUX cJU cJUP cJURX cJUR cJYT
cJYX cJY cJYP cJYRX cJYR cQIT cQIX cQI cQIP cQIET cQIEX cQIE cQIEP cQUOT cQUOX cQUO cQUOP cQOT cQOX
cQO cQOP cQUT cQUX cQU cQUP cQURX cQUR cQYT cQYX cQY cQYP cQYRX cQYR cJJIT cJJIX cJJI cJJIP cJJIET
cJJIEX cJJIE cJJIEP cJJUOX cJJUO cJJUOP cJJOT cJJOX cJJO cJJOP cJJUT cJJUX cJJU cJJUP cJJURX cJJUR
cJJYT cJJYX cJJY cJJYP cNJIT cNJIX cNJI cNJIP cNJIET cNJIEX cNJIE cNJIEP cNJUOX cNJUO cNJOT cNJOX
cNJO cNJOP cNJUX cNJU cNJUP cNJURX cNJUR cNJYT cNJYX cNJY cNJYP cNJYRX cNJYR cNYIT cNYIX cNYI cNYIP
cNYIET cNYIEX cNYIE cNYIEP cNYUOX cNYUO cNYUOP cNYOT cNYOX cNYO cNYOP cNYUT cNYUX cNYU cNYUP cXIT
cXIX cXI cXIP cXIET cXIEX cXIE cXIEP cXUOX cXUO cXOT cXOX cXO cXOP cXYT cXYX cXY cXYP cXYRX cXYR
cYIT cYIX cYI cYIP cYIET cYIEX cYIE cYIEP cYUOT cYUOX cYUO cYUOP cYOT cYOX cYO cYOP cYUT cYUX cYU
cYUP cYURX cYUR cYYT cYYX cYY cYYP cYYRX cYYR =A490 bRADICAL QOT cLI cKIT cNYIP cCYP cSSI cGGOP
cGEP cMI cHXIT cLYR cBBUT cMOP cYO cPUT cHXUO cTAT cGA cZUP cCYT cDDUR cBUR cGGUO cNYOP cTU cOP
cJJUT cZOT cPYT cHMO cYIT cVUR cSHY cVEP cZA cJO cNZUP cJJY cGOT cJJIE cWO cDU cSHUR cLIE cCY cCUOP
cCIP cHXOP cSHAT cZUR cSHOP cCHE cZZIET cNBIE cKE =A4D0 aLISU LETTER BA cPA cPHA cDA cTA cTHA cGA
cKA cKHA cJA cCA cCHA cDZA cTSA cTSHA cMA cNA cLA cSA cZHA cZA cNGA cHA cXA cHHA cFA cWA cSHA cYA
cGHA cA cAE cE cEU cI cO cU cUE cUH cOE cTONE MYA TI dNA PO dMYA CYA eBO eNA eJEU bPUNCTUATION
COMMA cFULL STOP aVAI SYLLABLE EE cEEN cHEE cWEE cWEEN cPEE cBHEE cBEE cMBEE cKPEE cMGBEE cGBEE
cFEE cVEE cTEE cTHEE cDHEE cDHHEE cLEE cREE cDEE cNDEE cSEE cSHEE cZEE cZHEE cCEE cJEE cNJEE cYEE
cKEE cNGGEE cGEE cMEE cNEE cNYEE cI cIN cHI cHIN cWI cWIN cPI cBHI cBI cMBI cKPI cMGBI cGBI cFI cVI
cTI cTHI cDHI cDHHI cLI cRI cDI cNDI cSI cSHI cZI cZHI cCI cJI cNJI cYI cKI cNGGI cGI cMI cNI cNYI
cA cAN cNGAN cHA cHAN cWA cWAN cPA cBHA cBA cMBA cKPA cKPAN cMGBA cGBA cFA cVA cTA cTHA cDHA cDHHA
cLA cRA cDA cNDA cSA cSHA cZA cZHA cCA cJA cNJA cYA cKA cKAN cNGGA cGA cMA cNA cNYA cOO cOON cHOO
cWOO cWOON cPOO cBHOO cBOO cMBOO cKPOO cMGBOO cGBOO cFOO cVOO cTOO cTHOO cDHOO cDHHOO cLOO cROO
cDOO cNDOO cSOO cSHOO cZOO cZHOO cCOO cJOO cNJOO cYOO cKOO cNGGOO cGOO cMOO cNOO cNYOO cU cUN cHU
cHUN cWU cWUN cPU cBHU cBU cMBU cKPU cMGBU cGBU cFU cVU cTU cTHU cDHU cDHHU cLU cRU cDU cNDU cSU
cSHU cZU cZHU cCU cJU cNJU cYU cKU cNGGU cGU cMU cNU cNYU cO cON cNGON cHO cHON cWO cWON cPO cBHO
cBO cMBO cKPO cMGBO cGBO cGBON cFO cVO cTO cTHO cDHO cDHHO cLO cRO cDO cNDO cSO cSHO cZO cZHO cCO
cJO cNJO cYO cKO cNGGO cGO cMO cNO cNYO cE cEN cNGEN cHE cHEN cWE cWEN cPE cBHE cBE cMBE cKPE cKPEN
cMGBE cGBE cGBEN cFE cVE cTE cTHE cDHE cDHHE cLE cRE cDE cNDE cSE cSHE cZE cZHE cCE cJE cNJE cYE
cKE cNGGE cNGGEN cGE cGEN cME cNE cNYE cNG cLENGTHENER bCOMMA bFULL STOP bQUESTION MARK bSYLLABLE
NDOLE FA dKA dSOO bSYMBOL FEENG cKEENG cTING cNII cBANG cFAA cTAA cDANG cDOONG cKUNG cTONG cDO-O
cJONG bDIGIT ZERO cONE cTWO cTHREE cFOUR cFIVE cSIX cSEVEN cEIGHT cNINE bSYLLABLE NDOLE MA dDO
=A640 aCYRILLIC CAPITAL LETTER ZEMLYA bSMALL LETTER ZEMLYA bCAPITAL LETTER DZELO bSMALL LETTER
DZELO bCAPITAL LETTER REVERSED DZE bSMALL LETTER REVERSED DZE bCAPITAL LETTER IOTA bSMALL LETTER
IOTA bCAPITAL LETTER DJERV bSMALL LETTER DJERV bCAPITAL LETTER MONOGRAPH UK bSMALL LETTER MONOGRAPH
UK bCAPITAL LETTER BROAD OMEGA bSMALL LETTER BROAD OMEGA bCAPITAL LETTER NEUTRAL YER bSMALL LETTER
NEUTRAL YER bCAPITAL LETTER YERU WITH BACK YER bSMALL LETTER YERU WITH BACK YER bCAPITAL LETTER
IOTIFIED YAT bSMALL LETTER IOTIFIED YAT bCAPITAL LETTER REVERSED YU bSMALL LETTER REVERSED YU
bCAPITAL LETTER IOTIFIED A bSMALL LETTER IOTIFIED A bCAPITAL LETTER CLOSED LITTLE YUS bSMALL LETTER
CLOSED LITTLE YUS bCAPITAL LETTER BLENDED YUS bSMALL LETTER BLENDED YUS bCAPITAL LETTER IOTIFIED
CLOSED LITTLE YUS bSMALL LETTER IOTIFIED CLOSED LITTLE YUS bCAPITAL LETTER YN bSMALL LETTER YN
bCAPITAL LETTER REVERSED TSE bSMALL LETTER REVERSED TSE bCAPITAL LETTER SOFT DE bSMALL LETTER SOFT
DE bCAPITAL LETTER SOFT EL bSMALL LETTER SOFT EL bCAPITAL LETTER SOFT EM bSMALL LETTER SOFT EM
bCAPITAL LETTER MONOCULAR O bSMALL LETTER MONOCULAR O bCAPITAL LETTER BINOCULAR O bSMALL LETTER
BINOCULAR O bCAPITAL LETTER DOUBLE MONOCULAR O bSMALL LETTER DOUBLE MONOCULAR O bLETTER MULTIOCULAR
O aCOMBINING CYRILLIC VZMET cTEN MILLIONS SIGN cHUNDRED MILLIONS SIGN cTHOUSAND MILLIONS SIGN
aSLAVONIC ASTERISK aCOMBINING CYRILLIC LETTER UKRAINIAN IE dI dYI dU dHARD SIGN dYERU dSOFT SIGN
dOMEGA cKAVYKA cPAYEROK aCYRILLIC KAVYKA bPAYEROK bCAPITAL LETTER DWE bSMALL LETTER DWE bCAPITAL
LETTER DZWE bSMALL LETTER DZWE bCAPITAL LETTER ZHWE bSMALL LETTER ZHWE bCAPITAL LETTER CCHE bSMALL
LETTER CCHE bCAPITAL LETTER DZZE bSMALL LETTER DZZE bCAPITAL LETTER TE WITH MIDDLE HOOK bSMALL
LETTER TE WITH MIDDLE HOOK bCAPITAL LETTER TWE bSMALL LETTER TWE bCAPITAL LETTER TSWE bSMALL LETTER
TSWE bCAPITAL LETTER TSSE bSMALL LETTER TSSE bCAPITAL LETTER TCHE bSMALL LETTER TCHE bCAPITAL
LETTER HWE bSMALL LETTER HWE bCAPITAL LETTER SHWE bSMALL LETTER SHWE bCAPITAL LETTER DOUBLE O
bSMALL LETTER DOUBLE O bCAPITAL LETTER CROSSED O bSMALL LETTER CROSSED O aMODIFIER LETTER CYRILLIC
HARD SIGN dSOFT SIGN aCOMBINING CYRILLIC LETTER EF dIOTIFIED E aBAMUM LETTER A cKA cU cKU cEE cREE
cTAE cO cNYI cI cLA cPA cRII cRIEE cLEEEE cMEEEE cTAA cNDAA cNJAEM cM cSUU cMU cSHII cSI cSHEUX
cSEUX cKYEE cKET cNUAE cNU cNJUAE cYOQ cSHU cYUQ cYA cNSHA cKEUX cPEUX cNJEE cNTEE cPUE cWUE cPEE
cFEE cRU cLU cMI cNI cREUX cRAE cKEN cNGKWAEN cNGGA cNGA cSHO cPUAE cFU cFOM cWA cNA cLI cPI cLOQ
cKO cMBEN cREN cMEN cMA cTI cKI cMO cMBAA cTET cKPA cTEN cNTUU cSAMBA cFAAMAE cKOVUU cKOGHOM
bCOMBINING MARK KOQNDON dTUKWENTIS bNJAEMLI bFULL STOP bCOLON bCOMMA bSEMICOLON bQUESTION MARK
=A700 aMODIFIER LETTER CHINESE TONE YIN PING eYANG PING eYIN SHANG eYANG SHANG eYIN QU eYANG QU
eYIN RU eYANG RU cEXTRA-HIGH DOTTED TONE BAR cHIGH DOTTED TONE BAR cMID DOTTED TONE BAR cLOW DOTTED
TONE BAR cEXTRA-LOW DOTTED TONE BAR cEXTRA-HIGH DOTTED LEFT-STEM TONE BAR cHIGH DOTTED LEFT-STEM
TONE BAR cMID DOTTED LEFT-STEM TONE BAR cLOW DOTTED LEFT-STEM TONE BAR cEXTRA-LOW DOTTED LEFT-STEM
TONE BAR cEXTRA-HIGH LEFT-STEM TONE BAR cHIGH LEFT-STEM TONE BAR cMID LEFT-STEM TONE BAR cLOW
LEFT-STEM TONE BAR cEXTRA-LOW LEFT-STEM TONE BAR cDOT VERTICAL BAR dSLASH dHORIZONTAL BAR cLOWER
RIGHT CORNER ANGLE cRAISED UP ARROW dDOWN ARROW dEXCLAMATION MARK dINVERTED EXCLAMATION MARK cLOW
INVERTED EXCLAMATION MARK cSTRESS AND HIGH TONE eLOW TONE aLATIN CAPITAL LETTER EGYPTOLOGICAL ALEF
bSMALL LETTER EGYPTOLOGICAL ALEF bCAPITAL LETTER EGYPTOLOGICAL AIN bSMALL LETTER EGYPTOLOGICAL AIN
bCAPITAL LETTER HENG bSMALL LETTER HENG bCAPITAL LETTER TZ bSMALL LETTER TZ bCAPITAL LETTER
TRESILLO bSMALL LETTER TRESILLO bCAPITAL LETTER CUATRILLO bSMALL LETTER CUATRILLO bCAPITAL LETTER
CUATRILLO WITH COMMA"

private def easternNames5 : String := "
=A72F aLATIN SMALL LETTER CUATRILLO WITH COMMA bLETTER SMALL CAPITAL F eS bCAPITAL LETTER AA bSMALL
LETTER AA bCAPITAL LETTER AO bSMALL LETTER AO bCAPITAL LETTER AU bSMALL LETTER AU bCAPITAL LETTER
AV bSMALL LETTER AV bCAPITAL LETTER AV WITH HORIZONTAL BAR bSMALL LETTER AV WITH HORIZONTAL BAR
bCAPITAL LETTER AY bSMALL LETTER AY bCAPITAL LETTER REVERSED C WITH DOT bSMALL LETTER REVERSED C
WITH DOT bCAPITAL LETTER K WITH STROKE bSMALL LETTER K WITH STROKE bCAPITAL LETTER K WITH DIAGONAL
STROKE bSMALL LETTER K WITH DIAGONAL STROKE bCAPITAL LETTER K WITH STROKE AND DIAGONAL STROKE
bSMALL LETTER K WITH STROKE AND DIAGONAL STROKE bCAPITAL LETTER BROKEN L bSMALL LETTER BROKEN L
bCAPITAL LETTER L WITH HIGH STROKE bSMALL LETTER L WITH HIGH STROKE bCAPITAL LETTER O WITH LONG
STROKE OVERLAY bSMALL LETTER O WITH LONG STROKE OVERLAY bCAPITAL LETTER O WITH LOOP bSMALL LETTER O
WITH LOOP bCAPITAL LETTER OO bSMALL LETTER OO bCAPITAL LETTER P WITH STROKE THROUGH DESCENDER
bSMALL LETTER P WITH STROKE THROUGH DESCENDER bCAPITAL LETTER P WITH FLOURISH bSMALL LETTER P WITH
FLOURISH bCAPITAL LETTER P WITH SQUIRREL TAIL bSMALL LETTER P WITH SQUIRREL TAIL bCAPITAL LETTER Q
WITH STROKE THROUGH DESCENDER bSMALL LETTER Q WITH STROKE THROUGH DESCENDER bCAPITAL LETTER Q WITH
DIAGONAL STROKE bSMALL LETTER Q WITH DIAGONAL STROKE bCAPITAL LETTER R ROTUNDA bSMALL LETTER R
ROTUNDA bCAPITAL LETTER RUM ROTUNDA bSMALL LETTER RUM ROTUNDA bCAPITAL LETTER V WITH DIAGONAL
STROKE bSMALL LETTER V WITH DIAGONAL STROKE bCAPITAL LETTER VY bSMALL LETTER VY bCAPITAL LETTER
VISIGOTHIC Z bSMALL LETTER VISIGOTHIC Z bCAPITAL LETTER THORN WITH STROKE bSMALL LETTER THORN WITH
STROKE bCAPITAL LETTER THORN WITH STROKE THROUGH DESCENDER bSMALL LETTER THORN WITH STROKE THROUGH
DESCENDER bCAPITAL LETTER VEND bSMALL LETTER VEND bCAPITAL LETTER ET bSMALL LETTER ET bCAPITAL
LETTER IS bSMALL LETTER IS bCAPITAL LETTER CON bSMALL LETTER CON aMODIFIER LETTER US aLATIN SMALL
LETTER DUM dLUM dMUM dNUM dRUM bLETTER SMALL CAPITAL RUM bSMALL LETTER TUM dUM bCAPITAL LETTER
INSULAR D bSMALL LETTER INSULAR D bCAPITAL LETTER INSULAR F bSMALL LETTER INSULAR F bCAPITAL LETTER
INSULAR G dTURNED INSULAR G bSMALL LETTER TURNED INSULAR G bCAPITAL LETTER TURNED L bSMALL LETTER
TURNED L bCAPITAL LETTER INSULAR R bSMALL LETTER INSULAR R bCAPITAL LETTER INSULAR S bSMALL LETTER
INSULAR S bCAPITAL LETTER INSULAR T bSMALL LETTER INSULAR T aMODIFIER LETTER LOW CIRCUMFLEX ACCENT
cCOLON cSHORT EQUALS SIGN aLATIN CAPITAL LETTER SALTILLO bSMALL LETTER SALTILLO bCAPITAL LETTER
TURNED H bSMALL LETTER L WITH RETROFLEX HOOK AND BELT bLETTER SINOLOGICAL DOT bCAPITAL LETTER N
WITH DESCENDER bSMALL LETTER N WITH DESCENDER bCAPITAL LETTER C WITH BAR bSMALL LETTER C WITH BAR
fPALATAL HOOK dH WITH PALATAL HOOK bCAPITAL LETTER B WITH FLOURISH bSMALL LETTER B WITH FLOURISH
bCAPITAL LETTER F WITH STROKE bSMALL LETTER F WITH STROKE bCAPITAL LETTER VOLAPUK AE bSMALL LETTER
VOLAPUK AE bCAPITAL LETTER VOLAPUK OE bSMALL LETTER VOLAPUK OE bCAPITAL LETTER VOLAPUK UE bSMALL
LETTER VOLAPUK UE bCAPITAL LETTER G WITH OBLIQUE STROKE bSMALL LETTER G WITH OBLIQUE STROKE
bCAPITAL LETTER K WITH OBLIQUE STROKE bSMALL LETTER K WITH OBLIQUE STROKE bCAPITAL LETTER N WITH
OBLIQUE STROKE bSMALL LETTER N WITH OBLIQUE STROKE bCAPITAL LETTER R WITH OBLIQUE STROKE bSMALL
LETTER R WITH OBLIQUE STROKE bCAPITAL LETTER S WITH OBLIQUE STROKE bSMALL LETTER S WITH OBLIQUE
STROKE bCAPITAL LETTER H WITH HOOK dREVERSED OPEN E dSCRIPT G dL WITH BELT dSMALL CAPITAL I bLETTER
SMALL CAPITAL Q bCAPITAL LETTER TURNED K eT dJ WITH CROSSED-TAIL dCHI dBETA bSMALL LETTER BETA
bCAPITAL LETTER OMEGA bSMALL LETTER OMEGA bCAPITAL LETTER U WITH STROKE bSMALL LETTER U WITH STROKE
bCAPITAL LETTER GLOTTAL A bSMALL LETTER GLOTTAL A bCAPITAL LETTER GLOTTAL I bSMALL LETTER GLOTTAL I
bCAPITAL LETTER GLOTTAL U bSMALL LETTER GLOTTAL U bCAPITAL LETTER OLD POLISH O bSMALL LETTER OLD
POLISH O bCAPITAL LETTER ANGLICANA W bSMALL LETTER ANGLICANA W bCAPITAL LETTER C WITH PALATAL HOOK
dS WITH HOOK dZ WITH PALATAL HOOK dD WITH SHORT STROKE OVERLAY bSMALL LETTER D WITH SHORT STROKE
OVERLAY bCAPITAL LETTER S WITH SHORT STROKE OVERLAY bSMALL LETTER S WITH SHORT STROKE OVERLAY =A7D0
bCAPITAL LETTER CLOSED INSULAR G bSMALL LETTER CLOSED INSULAR G =A7D3 dDOUBLE THORN =A7D5 eWYNN
bCAPITAL LETTER MIDDLE SCOTS S bSMALL LETTER MIDDLE SCOTS S bCAPITAL LETTER SIGMOID S bSMALL LETTER
SIGMOID S =A7F2 aMODIFIER LETTER CAPITAL C dF dQ aLATIN CAPITAL LETTER REVERSED HALF H bSMALL
LETTER REVERSED HALF H bEPIGRAPHIC LETTER SIDEWAYS I aMODIFIER LETTER CAPITAL H WITH STROKE cSMALL
LIGATURE OE aLATIN LETTER SMALL CAPITAL TURNED M bEPIGRAPHIC LETTER REVERSED F eP dINVERTED M dI
LONGA dARCHAIC M aSYLOTI NAGRI LETTER A dI cSIGN DVISVARA cLETTER U dE dO cSIGN HASANTA cLETTER KO
dKHO dGO dGHO cSIGN ANUSVARA cLETTER CO dCHO dJO dJHO dTTO dTTHO dDDO dDDHO dTO dTHO dDO dDHO dNO
dPO dPHO dBO dBHO dMO dRO dLO dRRO dSO dHO cVOWEL SIGN A eI eU eE eOO cPOETRY MARK-1 dMARK-2
dMARK-3 dMARK-4 cSIGN ALTERNATE HASANTA =A830 aNORTH INDIC FRACTION ONE QUARTER eHALF dTHREE
QUARTERS dONE SIXTEENTH eEIGHTH dTHREE SIXTEENTHS cQUARTER MARK cPLACEHOLDER MARK cRUPEE MARK
cQUANTITY MARK =A840 aPHAGS-PA LETTER KA cKHA cGA cNGA cCA cCHA cJA cNYA cTA cTHA cDA cNA cPA cPHA
cBA cMA cTSA cTSHA cDZA cWA cZHA cZA cSMALL A cYA cRA cLA cSHA cSA cHA cA cI cU cE cO cQA cXA cFA
cGGA cEE bSUBJOINED LETTER WA dYA bLETTER TTA cTTHA cDDA cNNA cALTERNATE YA cVOICELESS SHA cVOICED
HA cASPIRATED FA bSUBJOINED LETTER RA bSUPERFIXED LETTER RA bLETTER CANDRABINDU bSINGLE HEAD MARK
bDOUBLE HEAD MARK bMARK SHAD cDOUBLE SHAD =A880 aSAURASHTRA SIGN ANUSVARA cVISARGA bLETTER A cAA cI
cII cU cUU cVOCALIC R dRR dL dLL cE cEE cAI cO cOO cAU cKA cKHA cGA cGHA cNGA cCA cCHA cJA cJHA
cNYA cTTA cTTHA cDDA cDDHA cNNA cTA cTHA cDA cDHA cNA cPA cPHA cBA cBHA cMA cYA cRA cLA cVA cSHA
cSSA cSA cHA cLLA bCONSONANT SIGN HAARU bVOWEL SIGN AA dI dII dU dUU dVOCALIC R eRR eL eLL dE dEE
dAI dO dOO dAU bSIGN VIRAMA cCANDRABINDU =A8CE bDANDA bDOUBLE DANDA bDIGIT ZERO cONE cTWO cTHREE
cFOUR cFIVE cSIX cSEVEN cEIGHT cNINE =A8E0 aCOMBINING DEVANAGARI DIGIT ZERO dONE dTWO dTHREE dFOUR
dFIVE dSIX dSEVEN dEIGHT dNINE cLETTER A dU dKA dNA dPA dRA dVI cSIGN AVAGRAHA aDEVANAGARI SIGN
SPACING CANDRABINDU cCANDRABINDU VIRAMA cDOUBLE CANDRABINDU VIRAMA cCANDRABINDU TWO dTHREE
dAVAGRAHA cPUSHPIKA bGAP FILLER bCARET bHEADSTROKE bSIGN SIDDHAM bJAIN OM bLETTER AY bVOWEL SIGN AY
aKAYAH LI DIGIT ZERO dONE dTWO dTHREE dFOUR dFIVE dSIX dSEVEN dEIGHT dNINE cLETTER KA dKHA dGA dNGA
dSA dSHA dZA dNYA dTA dHTA dNA dPA dPHA dMA dDA dBA dRA dYA dLA dWA dTHA dHA dVA dCA dA dOE dI dOO
cVOWEL UE dE dU dEE dO cTONE PLOPHU dCALYA ePLOPHU cSIGN CWI dSHYA aREJANG LETTER KA cGA cNGA cTA
cDA cNA cPA cBA cMA cCA cJA cNYA cSA cRA cLA cYA cWA cHA cMBA cNGGA cNDA cNYJA cA bVOWEL SIGN I dU
dE dAI dO dAU dEU dEA bCONSONANT SIGN NG dN dR dH bVIRAMA =A95F bSECTION MARK aHANGUL CHOSEONG
TIKEUT-MIEUM cTIKEUT-PIEUP cTIKEUT-SIOS cTIKEUT-CIEUC cRIEUL-KIYEOK cRIEUL-SSANGKIYEOK
cRIEUL-TIKEUT cRIEUL-SSANGTIKEUT cRIEUL-MIEUM cRIEUL-PIEUP cRIEUL-SSANGPIEUP cRIEUL-KAPYEOUNPIEUP
cRIEUL-SIOS cRIEUL-CIEUC cRIEUL-KHIEUKH cMIEUM-KIYEOK cMIEUM-TIKEUT cMIEUM-SIOS cPIEUP-SIOS-THIEUTH
cPIEUP-KHIEUKH cPIEUP-HIEUH cSSANGSIOS-PIEUP cIEUNG-RIEUL cIEUNG-HIEUH cSSANGCIEUC-HIEUH
cSSANGTHIEUTH cPHIEUPH-HIEUH cHIEUH-SIOS cSSANGYEORINHIEUH =A980 aJAVANESE SIGN PANYANGGA cCECAK
cLAYAR cWIGNYAN bLETTER A cI KAWI d cII cU cPA CEREK cNGA LELET eRASWADI cE cAI cO cKA dSASAK
dMURDA cGA dMURDA cNGA cCA dMURDA cJA cNYA MURDA cJA MAHAPRANA cNYA cTTA dMAHAPRANA cDDA dMAHAPRANA
cNA MURDA cTA dMURDA cDA dMAHAPRANA cNA cPA dMURDA cBA dMURDA cMA cYA cRA dAGUNG cLA cWA cSA MURDA
dMAHAPRANA d cHA bSIGN CECAK TELU bVOWEL SIGN TARUNG dTOLONG dWULU eMELIK dSUKU eMENDUT dTALING
dDIRGA MURE dPEPET bCONSONANT SIGN KERET dPENGKAL dCAKRA bPANGKON bLEFT RERENGGAN bRIGHT RERENGGAN
bPADA ANDAP cMADYA cLUHUR cWINDU cPANGKAT cLINGSA cLUNGSI cADEG dADEG cPISELEH bTURNED PADA PISELEH
=A9CF bPANGRANGKEP bDIGIT ZERO cONE cTWO cTHREE cFOUR cFIVE cSIX cSEVEN cEIGHT cNINE =A9DE bPADA
TIRTA TUMETES cISEN-ISEN aMYANMAR LETTER SHAN GHA dCHA dJHA dNNA dBHA bSIGN SHAN SAW bMODIFIER
LETTER SHAN REDUPLICATION bLETTER TAI LAING NYA eFA eGA eGHA eJA eJHA eDDA eDDHA eNNA bTAI LAING
DIGIT ZERO eONE eTWO eTHREE eFOUR eFIVE eSIX eSEVEN eEIGHT eNINE bLETTER TAI LAING LLA eDA eDHA eBA
eBHA =AA00 aCHAM LETTER A"

private def easternNames6 : String := "
=AA01 aCHAM LETTER I cU cE cAI cO cKA cKHA cGA cGHA cNGUE cNGA cCHA cCHHA cJA cJHA cNHUE cNHA cNHJA
cTA cTHA cDA cDHA cNUE cNA cDDA cPA cPPA cPHA cBA cBHA cMUE cMA cBBA cYA cRA cLA cVA cSSA cSA cHA
bVOWEL SIGN AA dI dII dEI dU dOE dO dAI dAU dUE bCONSONANT SIGN YA dRA dLA dWA =AA40 bLETTER FINAL
K dG dNG bCONSONANT SIGN FINAL NG bLETTER FINAL CH dT dN dP dY dR dL dSS bCONSONANT SIGN FINAL M eH
=AA50 bDIGIT ZERO cONE cTWO cTHREE cFOUR cFIVE cSIX cSEVEN cEIGHT cNINE =AA5C bPUNCTUATION SPIRAL
cDANDA cDOUBLE DANDA cTRIPLE DANDA aMYANMAR LETTER KHAMTI GA dCA dCHA dJA dJHA dNYA dTTA dTTHA dDDA
dDDHA dDHA dNA dSA dHA dHHA dFA bMODIFIER LETTER KHAMTI REDUPLICATION bLETTER KHAMTI XA dZA dRA
bLOGOGRAM KHAMTI OAY dQN dHM bSYMBOL AITON EXCLAMATION dONE dTWO bLETTER AITON RA bSIGN PAO KAREN
TONE cTAI LAING TONE-2 eTONE-5 bLETTER SHWE PALAUNG CHA eSHA aTAI VIET LETTER LOW KO dHIGH KO dLOW
KHO dHIGH KHO dLOW KHHO dHIGH KHHO dLOW GO dHIGH GO dLOW NGO dHIGH NGO dLOW CO dHIGH CO dLOW CHO
dHIGH CHO dLOW SO dHIGH SO dLOW NYO dHIGH NYO dLOW DO dHIGH DO dLOW TO dHIGH TO dLOW THO dHIGH THO
dLOW NO dHIGH NO dLOW BO dHIGH BO dLOW PO dHIGH PO dLOW PHO dHIGH PHO dLOW FO dHIGH FO dLOW MO
dHIGH MO dLOW YO dHIGH YO dLOW RO dHIGH RO dLOW LO dHIGH LO dLOW VO dHIGH VO dLOW HO dHIGH HO dLOW
O dHIGH O cMAI KANG cVOWEL AA dI dUE dU dE dO cMAI KHIT cVOWEL IA dUEA dUA dAUE dAY dAN dAM cTONE
MAI EK eNUENG eTHO eSONG =AADB cSYMBOL KON dNUENG dSAM dHO HOI dKOI KOI aMEETEI MAYEK LETTER E dO
dCHA dNYA dTTA dTTHA dDDA dDDHA dNNA dSHA dSSA cVOWEL SIGN II eUU eAAI eAU eAAU cCHEIKHAN cAHANG
KHUDAM cANJI cSYLLABLE REPETITION MARK cWORD REPETITION MARK cVOWEL SIGN VISARGA cVIRAMA =AB01
aETHIOPIC SYLLABLE TTHU cTTHI cTTHAA cTTHEE cTTHE cTTHO =AB09 cDDHU cDDHI cDDHAA cDDHEE cDDHE cDDHO
=AB11 cDZU cDZI cDZAA cDZEE cDZE cDZO =AB20 cCCHHA cCCHHU cCCHHI cCCHHAA cCCHHEE cCCHHE cCCHHO
=AB28 cBBA cBBU cBBI cBBAA cBBEE cBBE cBBO =AB30 aLATIN SMALL LETTER BARRED ALPHA dA REVERSED-SCHWA
dBLACKLETTER E dBARRED E dE WITH FLOURISH dLENIS F dSCRIPT G WITH CROSSED-TAIL dL WITH INVERTED
LAZY S fDOUBLE MIDDLE TILDE fMIDDLE RING dM WITH CROSSED-TAIL dN WITH CROSSED-TAIL dENG WITH
CROSSED-TAIL dBLACKLETTER O fWITH STROKE dOPEN O WITH STROKE dINVERTED OE dTURNED OE WITH STROKE
gHORIZONTAL STROKE eO OPEN-O gWITH STROKE dSTIRRUP R bLETTER SMALL CAPITAL R WITH RIGHT LEG bSMALL
LETTER R WITHOUT HANDLE dDOUBLE R dR WITH CROSSED-TAIL dDOUBLE R WITH CROSSED-TAIL dSCRIPT R fWITH
RING dBASELINE ESH dU WITH SHORT RIGHT LEG eBAR WITH SHORT RIGHT LEG dUI dTURNED UI dU WITH LEFT
HOOK dCHI eWITH LOW RIGHT RING gLEFT SERIF dX WITH LOW RIGHT RING fLONG LEFT LEG iAND LOW RIGHT
RING iWITH SERIF dY WITH SHORT RIGHT LEG aMODIFIER BREVE WITH INVERTED BREVE bLETTER SMALL HENG dL
WITH INVERTED LAZY S fMIDDLE TILDE dU WITH LEFT HOOK aLATIN SMALL LETTER SAKHA YAT dIOTIFIED E
dOPEN OE dUO dINVERTED ALPHA aGREEK LETTER SMALL CAPITAL OMEGA aLATIN SMALL LETTER DZ DIGRAPH WITH
RETROFLEX HOOK dTS DIGRAPH WITH RETROFLEX HOOK dTURNED R WITH MIDDLE TILDE aMODIFIER LETTER SMALL
TURNED W cLEFT TACK cRIGHT TACK =AB70 aCHEROKEE SMALL LETTER A dE dI dO dU dV dGA dKA dGE dGI dGO
dGU dGV dHA dHE dHI dHO dHU dHV dLA dLE dLI dLO dLU dLV dMA dME dMI dMO dMU dNA dHNA dNAH dNE dNI
dNO dNU dNV dQUA dQUE dQUI dQUO dQUU dQUV dSA dS dSE dSI dSO dSU dSV dDA dTA dDE dTE dDI dTI dDO
dDU dDV dDLA dTLA dTLE dTLI dTLO dTLU dTLV dTSA dTSE dTSI dTSO dTSU dTSV dWA dWE dWI dWO dWU dWV
dYA aMEETEI MAYEK LETTER KOK dSAM dLAI dMIT dPA dNA dCHIL dTIL dKHOU dNGOU dTHOU dWAI dYANG dHUK
dUN dI dPHAM dATIYA dGOK dJHAM dRAI dBA dJIL dDIL dGHOU dDHOU dBHAM dKOK LONSUM dLAI LONSUM dMIT
LONSUM dPA LONSUM dNA LONSUM dTIL LONSUM dNGOU LONSUM dI LONSUM cVOWEL SIGN ONAP eINAP eANAP eYENAP
eSOUNAP eUNAP eCHEINAP eNUNG cCHEIKHEI cLUM IYEK cAPUN IYEK =ABF0 cDIGIT ZERO dONE dTWO dTHREE
dFOUR dFIVE dSIX dSEVEN dEIGHT dNINE =D7B0 aHANGUL JUNGSEONG O-YEO cO-O-I cYO-A cYO-AE cYO-EO
cU-YEO cU-I-I cYU-AE cYU-O cEU-A cEU-EO cEU-E cEU-O cI-YA-O cI-YAE cI-YEO cI-YE cI-O-I cI-YO cI-YU
cI-I cARAEA-A cARAEA-E =D7CB bJONGSEONG NIEUN-RIEUL cNIEUN-CHIEUCH cSSANGTIKEUT cSSANGTIKEUT-PIEUP
cTIKEUT-PIEUP cTIKEUT-SIOS cTIKEUT-SIOS-KIYEOK cTIKEUT-CIEUC cTIKEUT-CHIEUCH cTIKEUT-THIEUTH
cRIEUL-SSANGKIYEOK cRIEUL-KIYEOK-HIEUH cSSANGRIEUL-KHIEUKH cRIEUL-MIEUM-HIEUH cRIEUL-PIEUP-TIKEUT
cRIEUL-PIEUP-PHIEUPH cRIEUL-YESIEUNG cRIEUL-YEORINHIEUH-HIEUH cKAPYEOUNRIEUL cMIEUM-NIEUN
cMIEUM-SSANGNIEUN cSSANGMIEUM cMIEUM-PIEUP-SIOS cMIEUM-CIEUC cPIEUP-TIKEUT cPIEUP-RIEUL-PHIEUPH
cPIEUP-MIEUM cSSANGPIEUP cPIEUP-SIOS-TIKEUT cPIEUP-CIEUC cPIEUP-CHIEUCH cSIOS-MIEUM
cSIOS-KAPYEOUNPIEUP cSSANGSIOS-KIYEOK cSSANGSIOS-TIKEUT cSIOS-PANSIOS cSIOS-CIEUC cSIOS-CHIEUCH
cSIOS-THIEUTH cSIOS-HIEUH cPANSIOS-PIEUP cPANSIOS-KAPYEOUNPIEUP cYESIEUNG-MIEUM cYESIEUNG-HIEUH
cCIEUC-PIEUP cCIEUC-SSANGPIEUP cSSANGCIEUC cPHIEUPH-SIOS cPHIEUPH-THIEUTH"

/-- The names of these code points, in pieces. -/
def easternNames : List String :=
  [easternNames1, easternNames2, easternNames3, easternNames4, easternNames5, easternNames6]

end ToolPolicy.NameTable
