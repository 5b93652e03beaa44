/-
# Names of characters from U+A500 to U+FFFD

Vai and further letters, and the forms of letters for compatibility.
-/

namespace Scriptlet.Text.CharacterNames

def furtherLetters : List (Nat × String) :=
  [(0xA500, "aVAI SYLLABLE EEcEENcHEEcWEEcWEENcPEEcBHEEcBEEcMBEEcKPEEcMGBEEcGBEEcFEEcVEEcTEE"),
   (0xA50F, "cTHEEcDHEEcDHHEEcLEEcREEcDEEcNDEEcSEEcSHEEcZEEcZHEEcCEEcJEEcNJEEcYEEcKEEcNGGEE"),
   (0xA520, "cGEEcMEEcNEEcNYEEcIcINcHIcHINcWIcWINcPIcBHIcBIcMBIcKPIcMGBIcGBIcFIcVIcTIcTHI"),
   (0xA535, "cDHIcDHHIcLIcRIcDIcNDIcSIcSHIcZIcZHIcCIcJIcNJIcYIcKIcNGGIcGIcMIcNIcNYIcAcAN"),
   (0xA54B, "cNGANcHAcHANcWAcWANcPAcBHAcBAcMBAcKPAcKPANcMGBAcGBAcFAcVAcTAcTHAcDHAcDHHAcLAcRA"),
   (0xA560, "cDAcNDAcSAcSHAcZAcZHAcCAcJAcNJAcYAcKAcKANcNGGAcGAcMAcNAcNYAcOOcOONcHOOcWOOcWOON"),
   (0xA576, "cPOOcBHOOcBOOcMBOOcKPOOcMGBOOcGBOOcFOOcVOOcTOOcTHOOcDHOOcDHHOOcLOOcROOcDOOcNDOO"),
   (0xA587, "cSOOcSHOOcZOOcZHOOcCOOcJOOcNJOOcYOOcKOOcNGGOOcGOOcMOOcNOOcNYOOcUcUNcHUcHUNcWU"),
   (0xA59A, "cWUNcPUcBHUcBUcMBUcKPUcMGBUcGBUcFUcVUcTUcTHUcDHUcDHHUcLUcRUcDUcNDUcSUcSHUcZU"),
   (0xA5AF, "cZHUcCUcJUcNJUcYUcKUcNGGUcGUcMUcNUcNYUcOcONcNGONcHOcHONcWOcWONcPOcBHOcBOcMBO"),
   (0xA5C5, "cKPOcMGBOcGBOcGBONcFOcVOcTOcTHOcDHOcDHHOcLOcROcDOcNDOcSOcSHOcZOcZHOcCOcJOcNJO"),
   (0xA5DA, "cYOcKOcNGGOcGOcMOcNOcNYOcEcENcNGENcHEcHENcWEcWENcPEcBHEcBEcMBEcKPEcKPENcMGBE"),
   (0xA5EF, "cGBEcGBENcFEcVEcTEcTHEcDHEcDHHEcLEcREcDEcNDEcSEcSHEcZEcZHEcCEcJEcNJEcYEcKEcNGGE"),
   (0xA605, "cNGGENcGEcGENcMEcNEcNYEcNGcLENGTHENERbCOMMAbFULL STOPbQUESTION MARK"),
   (0xA610, "bSYLLABLE NDOLE FAdKAdSOObSYMBOL FEENGcKEENGcTINGcNIIcBANGcFAAcTAAcDANGcDOONG"),
   (0xA61C, "cKUNGcTONGcDO-OcJONGbDIGIT ZEROcONEcTWOcTHREEcFOURcFIVEcSIXcSEVENcEIGHTcNINE"),
   (0xA62A, "bSYLLABLE NDOLE MAdDO"),
   (0xA640, "aCYRILLIC CAPITAL LETTER ZEMLYAbSMALL LETTER ZEMLYAbCAPITAL LETTER DZELO"),
   (0xA643, "bSMALL LETTER DZELObCAPITAL LETTER REVERSED DZEbSMALL LETTER REVERSED DZE"),
   (0xA646, "bCAPITAL LETTER IOTAbSMALL LETTER IOTAbCAPITAL LETTER DJERVbSMALL LETTER DJERV"),
   (0xA64A, "bCAPITAL LETTER MONOGRAPH UKbSMALL LETTER MONOGRAPH UK"),
   (0xA64C, "bCAPITAL LETTER BROAD OMEGAbSMALL LETTER BROAD OMEGAbCAPITAL LETTER NEUTRAL YER"),
   (0xA64F, "bSMALL LETTER NEUTRAL YERbCAPITAL LETTER YERU WITH BACK YER"),
   (0xA651, "bSMALL LETTER YERU WITH BACK YERbCAPITAL LETTER IOTIFIED YAT"),
   (0xA653, "bSMALL LETTER IOTIFIED YATbCAPITAL LETTER REVERSED YUbSMALL LETTER REVERSED YU"),
   (0xA656, "bCAPITAL LETTER IOTIFIED AbSMALL LETTER IOTIFIED A"),
   (0xA658, "bCAPITAL LETTER CLOSED LITTLE YUSbSMALL LETTER CLOSED LITTLE YUS"),
   (0xA65A, "bCAPITAL LETTER BLENDED YUSbSMALL LETTER BLENDED YUS"),
   (0xA65C, "bCAPITAL LETTER IOTIFIED CLOSED LITTLE YUS"),
   (0xA65D, "bSMALL LETTER IOTIFIED CLOSED LITTLE YUSbCAPITAL LETTER YNbSMALL LETTER YN"),
   (0xA660, "bCAPITAL LETTER REVERSED TSEbSMALL LETTER REVERSED TSEbCAPITAL LETTER SOFT DE"),
   (0xA663, "bSMALL LETTER SOFT DEbCAPITAL LETTER SOFT ELbSMALL LETTER SOFT EL"),
   (0xA666, "bCAPITAL LETTER SOFT EMbSMALL LETTER SOFT EMbCAPITAL LETTER MONOCULAR O"),
   (0xA669, "bSMALL LETTER MONOCULAR ObCAPITAL LETTER BINOCULAR ObSMALL LETTER BINOCULAR O"),
   (0xA66C, "bCAPITAL LETTER DOUBLE MONOCULAR ObSMALL LETTER DOUBLE MONOCULAR O"),
   (0xA66E, "bLETTER MULTIOCULAR OaCOMBINING CYRILLIC VZMETcTEN MILLIONS SIGN"),
   (0xA671, "cHUNDRED MILLIONS SIGNcTHOUSAND MILLIONS SIGNaSLAVONIC ASTERISK"),
   (0xA674, "aCOMBINING CYRILLIC LETTER UKRAINIAN IEdIdYIdUdHARD SIGNdYERUdSOFT SIGNdOMEGA"),
   (0xA67C, "cKAVYKAcPAYEROKaCYRILLIC KAVYKAbPAYEROKbCAPITAL LETTER DWEbSMALL LETTER DWE"),
   (0xA682, "bCAPITAL LETTER DZWEbSMALL LETTER DZWEbCAPITAL LETTER ZHWEbSMALL LETTER ZHWE"),
   (0xA686, "bCAPITAL LETTER CCHEbSMALL LETTER CCHEbCAPITAL LETTER DZZEbSMALL LETTER DZZE"),
   (0xA68A, "bCAPITAL LETTER TE WITH MIDDLE HOOKbSMALL LETTER TE WITH MIDDLE HOOK"),
   (0xA68C, "bCAPITAL LETTER TWEbSMALL LETTER TWEbCAPITAL LETTER TSWEbSMALL LETTER TSWE"),
   (0xA690, "bCAPITAL LETTER TSSEbSMALL LETTER TSSEbCAPITAL LETTER TCHEbSMALL LETTER TCHE"),
   (0xA694, "bCAPITAL LETTER HWEbSMALL LETTER HWEbCAPITAL LETTER SHWEbSMALL LETTER SHWE"),
   (0xA698, "bCAPITAL LETTER DOUBLE ObSMALL LETTER DOUBLE ObCAPITAL LETTER CROSSED O"),
   (0xA69B, "bSMALL LETTER CROSSED OaMODIFIER LETTER CYRILLIC HARD SIGNdSOFT SIGN"),
   (0xA69E, "aCOMBINING CYRILLIC LETTER EFdIOTIFIED EaBAMUM LETTER AcKAcUcKUcEEcREEcTAEcO"),
   (0xA6A8, "cNYIcIcLAcPAcRIIcRIEEcLEEEEcMEEEEcTAAcNDAAcNJAEMcMcSUUcMUcSHIIcSIcSHEUXcSEUX"),
   (0xA6BA, "cKYEEcKETcNUAEcNUcNJUAEcYOQcSHUcYUQcYAcNSHAcKEUXcPEUXcNJEEcNTEEcPUEcWUEcPEEcFEE"),
   (0xA6CC, "cRUcLUcMIcNIcREUXcRAEcKENcNGKWAENcNGGAcNGAcSHOcPUAEcFUcFOMcWAcNAcLIcPIcLOQcKO"),
   (0xA6E0, "cMBENcRENcMENcMAcTIcKIcMOcMBAAcTETcKPAcTENcNTUUcSAMBAcFAAMAEcKOVUUcKOGHOM"),
   (0xA6F0, "bCOMBINING MARK KOQNDONdTUKWENTISbNJAEMLIbFULL STOPbCOLONbCOMMAbSEMICOLON"),
   (0xA6F7, "bQUESTION MARK"),
   (0xA700, "aMODIFIER LETTER CHINESE TONE YIN PINGeYANG PINGeYIN SHANGeYANG SHANGeYIN QU"),
   (0xA705, "eYANG QUeYIN RUeYANG RUcEXTRA-HIGH DOTTED TONE BARcHIGH DOTTED TONE BAR"),
   (0xA70A, "cMID DOTTED TONE BARcLOW DOTTED TONE BARcEXTRA-LOW DOTTED TONE BAR"),
   (0xA70D, "cEXTRA-HIGH DOTTED LEFT-STEM TONE BARcHIGH DOTTED LEFT-STEM TONE BAR"),
   (0xA70F, "cMID DOTTED LEFT-STEM TONE BARcLOW DOTTED LEFT-STEM TONE BAR"),
   (0xA711, "cEXTRA-LOW DOTTED LEFT-STEM TONE BARcEXTRA-HIGH LEFT-STEM TONE BAR"),
   (0xA713, "cHIGH LEFT-STEM TONE BARcMID LEFT-STEM TONE BARcLOW LEFT-STEM TONE BAR"),
   (0xA716, "cEXTRA-LOW LEFT-STEM TONE BARcDOT VERTICAL BARdSLASHdHORIZONTAL BAR"),
   (0xA71A, "cLOWER RIGHT CORNER ANGLEcRAISED UP ARROWdDOWN ARROWdEXCLAMATION MARK"),
   (0xA71E, "dINVERTED EXCLAMATION MARKcLOW INVERTED EXCLAMATION MARKcSTRESS AND HIGH TONE"),
   (0xA721, "eLOW TONEaLATIN CAPITAL LETTER EGYPTOLOGICAL ALEF"),
   (0xA723, "bSMALL LETTER EGYPTOLOGICAL ALEFbCAPITAL LETTER EGYPTOLOGICAL AIN"),
   (0xA725, "bSMALL LETTER EGYPTOLOGICAL AINbCAPITAL LETTER HENGbSMALL LETTER HENG"),
   (0xA728, "bCAPITAL LETTER TZbSMALL LETTER TZbCAPITAL LETTER TRESILLO"),
   (0xA72B, "bSMALL LETTER TRESILLObCAPITAL LETTER CUATRILLObSMALL LETTER CUATRILLO"),
   (0xA72E, "bCAPITAL LETTER CUATRILLO WITH COMMAbSMALL LETTER CUATRILLO WITH COMMA"),
   (0xA730, "bLETTER SMALL CAPITAL FeSbCAPITAL LETTER AAbSMALL LETTER AAbCAPITAL LETTER AO"),
   (0xA735, "bSMALL LETTER AObCAPITAL LETTER AUbSMALL LETTER AUbCAPITAL LETTER AV"),
   (0xA739, "bSMALL LETTER AVbCAPITAL LETTER AV WITH HORIZONTAL BAR"),
   (0xA73B, "bSMALL LETTER AV WITH HORIZONTAL BARbCAPITAL LETTER AYbSMALL LETTER AY"),
   (0xA73E, "bCAPITAL LETTER REVERSED C WITH DOTbSMALL LETTER REVERSED C WITH DOT"),
   (0xA740, "bCAPITAL LETTER K WITH STROKEbSMALL LETTER K WITH STROKE"),
   (0xA742, "bCAPITAL LETTER K WITH DIAGONAL STROKEbSMALL LETTER K WITH DIAGONAL STROKE"),
   (0xA744, "bCAPITAL LETTER K WITH STROKE AND DIAGONAL STROKE"),
   (0xA745, "bSMALL LETTER K WITH STROKE AND DIAGONAL STROKEbCAPITAL LETTER BROKEN L"),
   (0xA747, "bSMALL LETTER BROKEN LbCAPITAL LETTER L WITH HIGH STROKE"),
   (0xA749, "bSMALL LETTER L WITH HIGH STROKEbCAPITAL LETTER O WITH LONG STROKE OVERLAY"),
   (0xA74B, "bSMALL LETTER O WITH LONG STROKE OVERLAYbCAPITAL LETTER O WITH LOOP"),
   (0xA74D, "bSMALL LETTER O WITH LOOPbCAPITAL LETTER OObSMALL LETTER OO"),
   (0xA750, "bCAPITAL LETTER P WITH STROKE THROUGH DESCENDER"),
   (0xA751, "bSMALL LETTER P WITH STROKE THROUGH DESCENDERbCAPITAL LETTER P WITH FLOURISH"),
   (0xA753, "bSMALL LETTER P WITH FLOURISHbCAPITAL LETTER P WITH SQUIRREL TAIL"),
   (0xA755, "bSMALL LETTER P WITH SQUIRREL TAIL"),
   (0xA756, "bCAPITAL LETTER Q WITH STROKE THROUGH DESCENDER"),
   (0xA757, "bSMALL LETTER Q WITH STROKE THROUGH DESCENDER"),
   (0xA758, "bCAPITAL LETTER Q WITH DIAGONAL STROKEbSMALL LETTER Q WITH DIAGONAL STROKE"),
   (0xA75A, "bCAPITAL LETTER R ROTUNDAbSMALL LETTER R ROTUNDAbCAPITAL LETTER RUM ROTUNDA"),
   (0xA75D, "bSMALL LETTER RUM ROTUNDAbCAPITAL LETTER V WITH DIAGONAL STROKE"),
   (0xA75F, "bSMALL LETTER V WITH DIAGONAL STROKEbCAPITAL LETTER VYbSMALL LETTER VY"),
   (0xA762, "bCAPITAL LETTER VISIGOTHIC ZbSMALL LETTER VISIGOTHIC Z"),
   (0xA764, "bCAPITAL LETTER THORN WITH STROKEbSMALL LETTER THORN WITH STROKE"),
   (0xA766, "bCAPITAL LETTER THORN WITH STROKE THROUGH DESCENDER"),
   (0xA767, "bSMALL LETTER THORN WITH STROKE THROUGH DESCENDERbCAPITAL LETTER VEND"),
   (0xA769, "bSMALL LETTER VENDbCAPITAL LETTER ETbSMALL LETTER ETbCAPITAL LETTER IS"),
   (0xA76D, "bSMALL LETTER ISbCAPITAL LETTER CONbSMALL LETTER CONaMODIFIER LETTER US"),
   (0xA771, "aLATIN SMALL LETTER DUMdLUMdMUMdNUMdRUMbLETTER SMALL CAPITAL RUM"),
   (0xA777, "bSMALL LETTER TUMdUMbCAPITAL LETTER INSULAR DbSMALL LETTER INSULAR D"),
   (0xA77B, "bCAPITAL LETTER INSULAR FbSMALL LETTER INSULAR FbCAPITAL LETTER INSULAR G"),
   (0xA77E, "dTURNED INSULAR GbSMALL LETTER TURNED INSULAR GbCAPITAL LETTER TURNED L"),
   (0xA781, "bSMALL LETTER TURNED LbCAPITAL LETTER INSULAR RbSMALL LETTER INSULAR R"),
   (0xA784, "bCAPITAL LETTER INSULAR SbSMALL LETTER INSULAR SbCAPITAL LETTER INSULAR T"),
   (0xA787, "bSMALL LETTER INSULAR TaMODIFIER LETTER LOW CIRCUMFLEX ACCENTcCOLON"),
   (0xA78A, "cSHORT EQUALS SIGNaLATIN CAPITAL LETTER SALTILLObSMALL LETTER SALTILLO"),
   (0xA78D, "bCAPITAL LETTER TURNED HbSMALL LETTER L WITH RETROFLEX HOOK AND BELT"),
   (0xA78F, "bLETTER SINOLOGICAL DOTbCAPITAL LETTER N WITH DESCENDER"),
   (0xA791, "bSMALL LETTER N WITH DESCENDERbCAPITAL LETTER C WITH BAR"),
   (0xA793, "bSMALL LETTER C WITH BARfPALATAL HOOKdH WITH PALATAL HOOK"),
   (0xA796, "bCAPITAL LETTER B WITH FLOURISHbSMALL LETTER B WITH FLOURISH"),
   (0xA798, "bCAPITAL LETTER F WITH STROKEbSMALL LETTER F WITH STROKE"),
   (0xA79A, "bCAPITAL LETTER VOLAPUK AEbSMALL LETTER VOLAPUK AEbCAPITAL LETTER VOLAPUK OE"),
   (0xA79D, "bSMALL LETTER VOLAPUK OEbCAPITAL LETTER VOLAPUK UEbSMALL LETTER VOLAPUK UE"),
   (0xA7A0, "bCAPITAL LETTER G WITH OBLIQUE STROKEbSMALL LETTER G WITH OBLIQUE STROKE"),
   (0xA7A2, "bCAPITAL LETTER K WITH OBLIQUE STROKEbSMALL LETTER K WITH OBLIQUE STROKE"),
   (0xA7A4, "bCAPITAL LETTER N WITH OBLIQUE STROKEbSMALL LETTER N WITH OBLIQUE STROKE"),
   (0xA7A6, "bCAPITAL LETTER R WITH OBLIQUE STROKEbSMALL LETTER R WITH OBLIQUE STROKE"),
   (0xA7A8, "bCAPITAL LETTER S WITH OBLIQUE STROKEbSMALL LETTER S WITH OBLIQUE STROKE"),
   (0xA7AA, "bCAPITAL LETTER H WITH HOOKdREVERSED OPEN EdSCRIPT GdL WITH BELT"),
   (0xA7AE, "dSMALL CAPITAL IbLETTER SMALL CAPITAL QbCAPITAL LETTER TURNED KeT"),
   (0xA7B2, "dJ WITH CROSSED-TAILdCHIdBETAbSMALL LETTER BETAbCAPITAL LETTER OMEGA"),
   (0xA7B7, "bSMALL LETTER OMEGAbCAPITAL LETTER U WITH STROKEbSMALL LETTER U WITH STROKE"),
   (0xA7BA, "bCAPITAL LETTER GLOTTAL AbSMALL LETTER GLOTTAL AbCAPITAL LETTER GLOTTAL I"),
   (0xA7BD, "bSMALL LETTER GLOTTAL IbCAPITAL LETTER GLOTTAL UbSMALL LETTER GLOTTAL U"),
   (0xA7C0, "bCAPITAL LETTER OLD POLISH ObSMALL LETTER OLD POLISH O"),
   (0xA7C2, "bCAPITAL LETTER ANGLICANA WbSMALL LETTER ANGLICANA W"),
   (0xA7C4, "bCAPITAL LETTER C WITH PALATAL HOOKdS WITH HOOKdZ WITH PALATAL HOOK"),
   (0xA7C7, "dD WITH SHORT STROKE OVERLAYbSMALL LETTER D WITH SHORT STROKE OVERLAY"),
   (0xA7C9, "bCAPITAL LETTER S WITH SHORT STROKE OVERLAY"),
   (0xA7CA, "bSMALL LETTER S WITH SHORT STROKE OVERLAY"),
   (0xA7D0, "bCAPITAL LETTER CLOSED INSULAR GbSMALL LETTER CLOSED INSULAR G"),
   (0xA7D3, "dDOUBLE THORN"),
   (0xA7D5, "eWYNNbCAPITAL LETTER MIDDLE SCOTS SbSMALL LETTER MIDDLE SCOTS S"),
   (0xA7D8, "bCAPITAL LETTER SIGMOID SbSMALL LETTER SIGMOID S"),
   (0xA7F2, "aMODIFIER LETTER CAPITAL CdFdQaLATIN CAPITAL LETTER REVERSED HALF H"),
   (0xA7F6, "bSMALL LETTER REVERSED HALF HbEPIGRAPHIC LETTER SIDEWAYS I"),
   (0xA7F8, "aMODIFIER LETTER CAPITAL H WITH STROKEcSMALL LIGATURE OE"),
   (0xA7FA, "aLATIN LETTER SMALL CAPITAL TURNED MbEPIGRAPHIC LETTER REVERSED FePdINVERTED M"),
   (0xA7FE, "dI LONGAdARCHAIC MaSYLOTI NAGRI LETTER AdIcSIGN DVISVARAcLETTER UdEdO"),
   (0xA806, "cSIGN HASANTAcLETTER KOdKHOdGOdGHOcSIGN ANUSVARAcLETTER COdCHOdJOdJHOdTTOdTTHO"),
   (0xA812, "dDDOdDDHOdTOdTHOdDOdDHOdNOdPOdPHOdBOdBHOdMOdROdLOdRROdSOdHOcVOWEL SIGN AeIeUeE"),
   (0xA827, "eOOcPOETRY MARK-1dMARK-2dMARK-3dMARK-4cSIGN ALTERNATE HASANTA"),
   (0xA830, "aNORTH INDIC FRACTION ONE QUARTEReHALFdTHREE QUARTERSdONE SIXTEENTHeEIGHTH"),
   (0xA835, "dTHREE SIXTEENTHScQUARTER MARKcPLACEHOLDER MARKcRUPEE MARKcQUANTITY MARK"),
   (0xA840, "aPHAGS-PA LETTER KAcKHAcGAcNGAcCAcCHAcJAcNYAcTAcTHAcDAcNAcPAcPHAcBAcMAcTSAcTSHA"),
   (0xA852, "cDZAcWAcZHAcZAcSMALL AcYAcRAcLAcSHAcSAcHAcAcIcUcEcOcQAcXAcFAcGGAcEE"),
   (0xA867, "bSUBJOINED LETTER WAdYAbLETTER TTAcTTHAcDDAcNNAcALTERNATE YAcVOICELESS SHA"),
   (0xA86F, "cVOICED HAcASPIRATED FAbSUBJOINED LETTER RAbSUPERFIXED LETTER RA"),
   (0xA873, "bLETTER CANDRABINDUbSINGLE HEAD MARKbDOUBLE HEAD MARKbMARK SHADcDOUBLE SHAD"),
   (0xA880, "aSAURASHTRA SIGN ANUSVARAcVISARGAbLETTER AcAAcIcIIcUcUUcVOCALIC RdRRdLdLLcEcEE"),
   (0xA88E, "cAIcOcOOcAUcKAcKHAcGAcGHAcNGAcCAcCHAcJAcJHAcNYAcTTAcTTHAcDDAcDDHAcNNAcTAcTHAcDA"),
   (0xA8A4, "cDHAcNAcPAcPHAcBAcBHAcMAcYAcRAcLAcVAcSHAcSSAcSAcHAcLLAbCONSONANT SIGN HAARU"),
   (0xA8B5, "bVOWEL SIGN AAdIdIIdUdUUdVOCALIC ReRReLeLLdEdEEdAIdOdOOdAUbSIGN VIRAMA"),
   (0xA8C5, "cCANDRABINDU"),
   (0xA8CE, "bDANDAbDOUBLE DANDAbDIGIT ZEROcONEcTWOcTHREEcFOURcFIVEcSIXcSEVENcEIGHTcNINE"),
   (0xA8E0, "aCOMBINING DEVANAGARI DIGIT ZEROdONEdTWOdTHREEdFOURdFIVEdSIXdSEVENdEIGHTdNINE"),
   (0xA8EA, "cLETTER AdUdKAdNAdPAdRAdVIcSIGN AVAGRAHAaDEVANAGARI SIGN SPACING CANDRABINDU"),
   (0xA8F3, "cCANDRABINDU VIRAMAcDOUBLE CANDRABINDU VIRAMAcCANDRABINDU TWOdTHREEdAVAGRAHA"),
   (0xA8F8, "cPUSHPIKAbGAP FILLERbCARETbHEADSTROKEbSIGN SIDDHAMbJAIN OMbLETTER AY"),
   (0xA8FF, "bVOWEL SIGN AYaKAYAH LI DIGIT ZEROdONEdTWOdTHREEdFOURdFIVEdSIXdSEVENdEIGHTdNINE"),
   (0xA90A, "cLETTER KAdKHAdGAdNGAdSAdSHAdZAdNYAdTAdHTAdNAdPAdPHAdMAdDAdBAdRAdYAdLAdWAdTHA"),
   (0xA91F, "dHAdVAdCAdAdOEdIdOOcVOWEL UEdEdUdEEdOcTONE PLOPHUdCALYAePLOPHUcSIGN CWIdSHYA"),
   (0xA930, "aREJANG LETTER KAcGAcNGAcTAcDAcNAcPAcBAcMAcCAcJAcNYAcSAcRAcLAcYAcWAcHAcMBAcNGGA"),
   (0xA944, "cNDAcNYJAcAbVOWEL SIGN IdUdEdAIdOdAUdEUdEAbCONSONANT SIGN NGdNdRdHbVIRAMA"),
   (0xA95F, "bSECTION MARKaHANGUL CHOSEONG TIKEUT-MIEUMcTIKEUT-PIEUPcTIKEUT-SIOS"),
   (0xA963, "cTIKEUT-CIEUCcRIEUL-KIYEOKcRIEUL-SSANGKIYEOKcRIEUL-TIKEUTcRIEUL-SSANGTIKEUT"),
   (0xA968, "cRIEUL-MIEUMcRIEUL-PIEUPcRIEUL-SSANGPIEUPcRIEUL-KAPYEOUNPIEUPcRIEUL-SIOS"),
   (0xA96D, "cRIEUL-CIEUCcRIEUL-KHIEUKHcMIEUM-KIYEOKcMIEUM-TIKEUTcMIEUM-SIOS"),
   (0xA972, "cPIEUP-SIOS-THIEUTHcPIEUP-KHIEUKHcPIEUP-HIEUHcSSANGSIOS-PIEUPcIEUNG-RIEUL"),
   (0xA977, "cIEUNG-HIEUHcSSANGCIEUC-HIEUHcSSANGTHIEUTHcPHIEUPH-HIEUHcHIEUH-SIOS"),
   (0xA97C, "cSSANGYEORINHIEUH"),
   (0xA980, "aJAVANESE SIGN PANYANGGAcCECAKcLAYARcWIGNYANbLETTER AcI KAWIcIcIIcUcPA CEREK"),
   (0xA98A, "cNGA LELETeRASWADIcEcAIcOcKAdSASAKdMURDAcGAdMURDAcNGAcCAdMURDAcJAcNYA MURDA"),
   (0xA999, "cJA MAHAPRANAcNYAcTTAdMAHAPRANAcDDAdMAHAPRANAcNA MURDAcTAdMURDAcDAdMAHAPRANAcNA"),
   (0xA9A5, "cPAdMURDAcBAdMURDAcMAcYAcRAdAGUNGcLAcWAcSA MURDAdMAHAPRANAcSAcHA"),
   (0xA9B3, "bSIGN CECAK TELUbVOWEL SIGN TARUNGdTOLONGdWULUeMELIKdSUKUeMENDUTdTALING"),
   (0xA9BB, "dDIRGA MUREdPEPETbCONSONANT SIGN KERETdPENGKALdCAKRAbPANGKONbLEFT RERENGGAN"),
   (0xA9C2, "bRIGHT RERENGGANbPADA ANDAPcMADYAcLUHURcWINDUcPANGKATcLINGSAcLUNGSIcADEGdADEG"),
   (0xA9CC, "cPISELEHbTURNED PADA PISELEH"),
   (0xA9CF, "bPANGRANGKEPbDIGIT ZEROcONEcTWOcTHREEcFOURcFIVEcSIXcSEVENcEIGHTcNINE"),
   (0xA9DE, "bPADA TIRTA TUMETEScISEN-ISENaMYANMAR LETTER SHAN GHAdCHAdJHAdNNAdBHA"),
   (0xA9E5, "bSIGN SHAN SAWbMODIFIER LETTER SHAN REDUPLICATIONbLETTER TAI LAING NYAeFAeGA"),
   (0xA9EA, "eGHAeJAeJHAeDDAeDDHAeNNAbTAI LAING DIGIT ZEROeONEeTWOeTHREEeFOUReFIVEeSIXeSEVEN"),
   (0xA9F8, "eEIGHTeNINEbLETTER TAI LAING LLAeDAeDHAeBAeBHA"),
   (0xAA00, "aCHAM LETTER AcIcUcEcAIcOcKAcKHAcGAcGHAcNGUEcNGAcCHAcCHHAcJAcJHAcNHUEcNHAcNHJA"),
   (0xAA13, "cTAcTHAcDAcDHAcNUEcNAcDDAcPAcPPAcPHAcBAcBHAcMUEcMAcBBAcYAcRAcLAcVAcSSAcSAcHA"),
   (0xAA29, "bVOWEL SIGN AAdIdIIdEIdUdOEdOdAIdAUdUEbCONSONANT SIGN YAdRAdLAdWA"),
   (0xAA40, "bLETTER FINAL KdGdNGbCONSONANT SIGN FINAL NGbLETTER FINAL CHdTdNdPdYdRdLdSS"),
   (0xAA4C, "bCONSONANT SIGN FINAL MeH"),
   (0xAA50, "bDIGIT ZEROcONEcTWOcTHREEcFOURcFIVEcSIXcSEVENcEIGHTcNINE"),
   (0xAA5C, "bPUNCTUATION SPIRALcDANDAcDOUBLE DANDAcTRIPLE DANDAaMYANMAR LETTER KHAMTI GAdCA"),
   (0xAA62, "dCHAdJAdJHAdNYAdTTAdTTHAdDDAdDDHAdDHAdNAdSAdHAdHHAdFA"),
   (0xAA70, "bMODIFIER LETTER KHAMTI REDUPLICATIONbLETTER KHAMTI XAdZAdRA"),
   (0xAA74, "bLOGOGRAM KHAMTI OAYdQNdHMbSYMBOL AITON EXCLAMATIONdONEdTWObLETTER AITON RA"),
   (0xAA7B, "bSIGN PAO KAREN TONEcTAI LAING TONE-2eTONE-5bLETTER SHWE PALAUNG CHAeSHA"),
   (0xAA80, "aTAI VIET LETTER LOW KOdHIGH KOdLOW KHOdHIGH KHOdLOW KHHOdHIGH KHHOdLOW GO"),
   (0xAA87, "dHIGH GOdLOW NGOdHIGH NGOdLOW COdHIGH COdLOW CHOdHIGH CHOdLOW SOdHIGH SO"),
   (0xAA90, "dLOW NYOdHIGH NYOdLOW DOdHIGH DOdLOW TOdHIGH TOdLOW THOdHIGH THOdLOW NOdHIGH NO"),
   (0xAA9A, "dLOW BOdHIGH BOdLOW POdHIGH POdLOW PHOdHIGH PHOdLOW FOdHIGH FOdLOW MOdHIGH MO"),
   (0xAAA4, "dLOW YOdHIGH YOdLOW ROdHIGH ROdLOW LOdHIGH LOdLOW VOdHIGH VOdLOW HOdHIGH HO"),
   (0xAAAE, "dLOW OdHIGH OcMAI KANGcVOWEL AAdIdUEdUdEdOcMAI KHITcVOWEL IAdUEAdUAdAUEdAYdAN"),
   (0xAABE, "dAMcTONE MAI EKeNUENGeTHOeSONG"),
   (0xAADB, "cSYMBOL KONdNUENGdSAMdHO HOIdKOI KOIaMEETEI MAYEK LETTER EdOdCHAdNYAdTTAdTTHA"),
   (0xAAE6, "dDDAdDDHAdNNAdSHAdSSAcVOWEL SIGN IIeUUeAAIeAUeAAUcCHEIKHANcAHANG KHUDAMcANJI"),
   (0xAAF3, "cSYLLABLE REPETITION MARKcWORD REPETITION MARKcVOWEL SIGN VISARGAcVIRAMA"),
   (0xAB01, "aETHIOPIC SYLLABLE TTHUcTTHIcTTHAAcTTHEEcTTHEcTTHO"),
   (0xAB09, "cDDHUcDDHIcDDHAAcDDHEEcDDHEcDDHO"), (0xAB11, "cDZUcDZIcDZAAcDZEEcDZEcDZO"),
   (0xAB20, "cCCHHAcCCHHUcCCHHIcCCHHAAcCCHHEEcCCHHEcCCHHO"),
   (0xAB28, "cBBAcBBUcBBIcBBAAcBBEEcBBEcBBO"),
   (0xAB30, "aLATIN SMALL LETTER BARRED ALPHAdA REVERSED-SCHWAdBLACKLETTER EdBARRED E"),
   (0xAB34, "dE WITH FLOURISHdLENIS FdSCRIPT G WITH CROSSED-TAILdL WITH INVERTED LAZY S"),
   (0xAB38, "fDOUBLE MIDDLE TILDEfMIDDLE RINGdM WITH CROSSED-TAILdN WITH CROSSED-TAIL"),
   (0xAB3C, "dENG WITH CROSSED-TAILdBLACKLETTER OfWITH STROKEdOPEN O WITH STROKEdINVERTED OE"),
   (0xAB41, "dTURNED OE WITH STROKEgHORIZONTAL STROKEeO OPEN-OgWITH STROKEdSTIRRUP R"),
   (0xAB46, "bLETTER SMALL CAPITAL R WITH RIGHT LEGbSMALL LETTER R WITHOUT HANDLEdDOUBLE R"),
   (0xAB49, "dR WITH CROSSED-TAILdDOUBLE R WITH CROSSED-TAILdSCRIPT RfWITH RINGdBASELINE ESH"),
   (0xAB4E, "dU WITH SHORT RIGHT LEGeBAR WITH SHORT RIGHT LEGdUIdTURNED UIdU WITH LEFT HOOK"),
   (0xAB53, "dCHIeWITH LOW RIGHT RINGgLEFT SERIFdX WITH LOW RIGHT RINGfLONG LEFT LEG"),
   (0xAB58, "iAND LOW RIGHT RINGiWITH SERIFdY WITH SHORT RIGHT LEG"),
   (0xAB5B, "aMODIFIER BREVE WITH INVERTED BREVEbLETTER SMALL HENGdL WITH INVERTED LAZY S"),
   (0xAB5E, "fMIDDLE TILDEdU WITH LEFT HOOKaLATIN SMALL LETTER SAKHA YATdIOTIFIED EdOPEN OE"),
   (0xAB63, "dUOdINVERTED ALPHAaGREEK LETTER SMALL CAPITAL OMEGA"),
   (0xAB66, "aLATIN SMALL LETTER DZ DIGRAPH WITH RETROFLEX HOOK"),
   (0xAB67, "dTS DIGRAPH WITH RETROFLEX HOOKdTURNED R WITH MIDDLE TILDE"),
   (0xAB69, "aMODIFIER LETTER SMALL TURNED WcLEFT TACKcRIGHT TACK"),
   (0xAB70, "aCHEROKEE SMALL LETTER AdEdIdOdUdVdGAdKAdGEdGIdGOdGUdGVdHAdHEdHIdHOdHUdHVdLAdLE"),
   (0xAB85, "dLIdLOdLUdLVdMAdMEdMIdMOdMUdNAdHNAdNAHdNEdNIdNOdNUdNVdQUAdQUEdQUIdQUOdQUUdQUV"),
   (0xAB9C, "dSAdSdSEdSIdSOdSUdSVdDAdTAdDEdTEdDIdTIdDOdDUdDVdDLAdTLAdTLEdTLIdTLOdTLUdTLVdTSA"),
   (0xABB4, "dTSEdTSIdTSOdTSUdTSVdWAdWEdWIdWOdWUdWVdYAaMEETEI MAYEK LETTER KOKdSAMdLAIdMIT"),
   (0xABC4, "dPAdNAdCHILdTILdKHOUdNGOUdTHOUdWAIdYANGdHUKdUNdIdPHAMdATIYAdGOKdJHAMdRAIdBAdJIL"),
   (0xABD7, "dDILdGHOUdDHOUdBHAMdKOK LONSUMdLAI LONSUMdMIT LONSUMdPA LONSUMdNA LONSUM"),
   (0xABE0, "dTIL LONSUMdNGOU LONSUMdI LONSUMcVOWEL SIGN ONAPeINAPeANAPeYENAPeSOUNAPeUNAP"),
   (0xABE9, "eCHEINAPeNUNGcCHEIKHEIcLUM IYEKcAPUN IYEK"),
   (0xABF0, "cDIGIT ZEROdONEdTWOdTHREEdFOURdFIVEdSIXdSEVENdEIGHTdNINE"),
   (0xD7B0, "aHANGUL JUNGSEONG O-YEOcO-O-IcYO-AcYO-AEcYO-EOcU-YEOcU-I-IcYU-AEcYU-OcEU-A"),
   (0xD7BA, "cEU-EOcEU-EcEU-OcI-YA-OcI-YAEcI-YEOcI-YEcI-O-IcI-YOcI-YUcI-IcARAEA-AcARAEA-E"),
   (0xD7CB, "bJONGSEONG NIEUN-RIEULcNIEUN-CHIEUCHcSSANGTIKEUTcSSANGTIKEUT-PIEUPcTIKEUT-PIEUP"),
   (0xD7D0, "cTIKEUT-SIOScTIKEUT-SIOS-KIYEOKcTIKEUT-CIEUCcTIKEUT-CHIEUCHcTIKEUT-THIEUTH"),
   (0xD7D5, "cRIEUL-SSANGKIYEOKcRIEUL-KIYEOK-HIEUHcSSANGRIEUL-KHIEUKHcRIEUL-MIEUM-HIEUH"),
   (0xD7D9, "cRIEUL-PIEUP-TIKEUTcRIEUL-PIEUP-PHIEUPHcRIEUL-YESIEUNGcRIEUL-YEORINHIEUH-HIEUH"),
   (0xD7DD, "cKAPYEOUNRIEULcMIEUM-NIEUNcMIEUM-SSANGNIEUNcSSANGMIEUMcMIEUM-PIEUP-SIOS"),
   (0xD7E2, "cMIEUM-CIEUCcPIEUP-TIKEUTcPIEUP-RIEUL-PHIEUPHcPIEUP-MIEUMcSSANGPIEUP"),
   (0xD7E7, "cPIEUP-SIOS-TIKEUTcPIEUP-CIEUCcPIEUP-CHIEUCHcSIOS-MIEUMcSIOS-KAPYEOUNPIEUP"),
   (0xD7EC, "cSSANGSIOS-KIYEOKcSSANGSIOS-TIKEUTcSIOS-PANSIOScSIOS-CIEUCcSIOS-CHIEUCH"),
   (0xD7F1, "cSIOS-THIEUTHcSIOS-HIEUHcPANSIOS-PIEUPcPANSIOS-KAPYEOUNPIEUPcYESIEUNG-MIEUM"),
   (0xD7F6, "cYESIEUNG-HIEUHcCIEUC-PIEUPcCIEUC-SSANGPIEUPcSSANGCIEUCcPHIEUPH-SIOS"),
   (0xD7FB, "cPHIEUPH-THIEUTH"), (0xFB00, "aLATIN SMALL LIGATURE FFdFIdFLdFFIdFFLdLONG S TdST"),
   (0xFB13, "aARMENIAN SMALL LIGATURE MEN NOWeECHeINIdVEW NOWdMEN XEH"),
   (0xFB1D, "aHEBREW LETTER YOD WITH HIRIQbPOINT JUDEO-SPANISH VARIKA"),
   (0xFB1F, "bLIGATURE YIDDISH YOD YOD PATAHbLETTER ALTERNATIVE AYINcWIDE ALEFdDALETdHEdKAF"),
   (0xFB25, "dLAMEDdFINAL MEMdRESHdTAVcALTERNATIVE PLUS SIGNcSHIN WITH SHIN DOTeSIN DOT"),
   (0xFB2C, "eDAGESH AND SHIN DOTgSIN DOTcALEF WITH PATAHeQAMATSeMAPIQcBET WITH DAGESH"),
   (0xFB32, "cGIMEL WITH DAGESHcDALET WITH DAGESHcHE WITH MAPIQcVAV WITH DAGESH"),
   (0xFB36, "cZAYIN WITH DAGESH"),
   (0xFB38, "cTET WITH DAGESHcYOD WITH DAGESHcFINAL KAF WITH DAGESHcKAF WITH DAGESH"),
   (0xFB3C, "cLAMED WITH DAGESH"), (0xFB3E, "cMEM WITH DAGESH"),
   (0xFB40, "cNUN WITH DAGESHcSAMEKH WITH DAGESH"),
   (0xFB43, "cFINAL PE WITH DAGESHcPE WITH DAGESH"),
   (0xFB46, "cTSADI WITH DAGESHcQOF WITH DAGESHcRESH WITH DAGESHcSHIN WITH DAGESH"),
   (0xFB4A, "cTAV WITH DAGESHcVAV WITH HOLAMcBET WITH RAFEcKAF WITH RAFEcPE WITH RAFE"),
   (0xFB4F, "bLIGATURE ALEF LAMEDaARABIC LETTER ALEF WASLA ISOLATED FORMeFINAL FORM"),
   (0xFB52, "cBEEH ISOLATED FORMdFINAL FORMdINITIAL FORMdMEDIAL FORMcPEH ISOLATED FORM"),
   (0xFB57, "dFINAL FORMdINITIAL FORMdMEDIAL FORMcBEHEH ISOLATED FORMdFINAL FORM"),
   (0xFB5C, "dINITIAL FORMdMEDIAL FORMcTTEHEH ISOLATED FORMdFINAL FORMdINITIAL FORM"),
   (0xFB61, "dMEDIAL FORMcTEHEH ISOLATED FORMdFINAL FORMdINITIAL FORMdMEDIAL FORM"),
   (0xFB66, "cTTEH ISOLATED FORMdFINAL FORMdINITIAL FORMdMEDIAL FORMcVEH ISOLATED FORM"),
   (0xFB6B, "dFINAL FORMdINITIAL FORMdMEDIAL FORMcPEHEH ISOLATED FORMdFINAL FORM"),
   (0xFB70, "dINITIAL FORMdMEDIAL FORMcDYEH ISOLATED FORMdFINAL FORMdINITIAL FORM"),
   (0xFB75, "dMEDIAL FORMcNYEH ISOLATED FORMdFINAL FORMdINITIAL FORMdMEDIAL FORM"),
   (0xFB7A, "cTCHEH ISOLATED FORMdFINAL FORMdINITIAL FORMdMEDIAL FORMcTCHEHEH ISOLATED FORM"),
   (0xFB7F, "dFINAL FORMdINITIAL FORMdMEDIAL FORMcDDAHAL ISOLATED FORMdFINAL FORM"),
   (0xFB84, "cDAHAL ISOLATED FORMdFINAL FORMcDUL ISOLATED FORMdFINAL FORMcDDAL ISOLATED FORM"),
   (0xFB89, "dFINAL FORMcJEH ISOLATED FORMdFINAL FORMcRREH ISOLATED FORMdFINAL FORM"),
   (0xFB8E, "cKEHEH ISOLATED FORMdFINAL FORMdINITIAL FORMdMEDIAL FORMcGAF ISOLATED FORM"),
   (0xFB93, "dFINAL FORMdINITIAL FORMdMEDIAL FORMcGUEH ISOLATED FORMdFINAL FORMdINITIAL FORM"),
   (0xFB99, "dMEDIAL FORMcNGOEH ISOLATED FORMdFINAL FORMdINITIAL FORMdMEDIAL FORM"),
   (0xFB9E, "cNOON GHUNNA ISOLATED FORMeFINAL FORMcRNOON ISOLATED FORMdFINAL FORM"),
   (0xFBA2, "dINITIAL FORMdMEDIAL FORMcHEH WITH YEH ABOVE ISOLATED FORMgFINAL FORM"),
   (0xFBA6, "dGOAL ISOLATED FORMeFINAL FORMeINITIAL FORMeMEDIAL FORM"),
   (0xFBAA, "dDOACHASHMEE ISOLATED FORMeFINAL FORMeINITIAL FORMeMEDIAL FORM"),
   (0xFBAE, "cYEH BARREE ISOLATED FORMeFINAL FORMeWITH HAMZA ABOVE ISOLATED FORMhFINAL FORM"),
   (0xFBB2, "bSYMBOL DOT ABOVEdBELOWcTWO DOTS ABOVEeBELOWcTHREE DOTS ABOVEeBELOW"),
   (0xFBB8, "ePOINTING DOWNWARDS ABOVEgBELOWcFOUR DOTS ABOVEeBELOWcDOUBLE VERTICAL BAR BELOW"),
   (0xFBBD, "cTWO DOTS VERTICALLY ABOVEfBELOWcRINGcSMALL TAH ABOVEeBELOWcWASLA ABOVE"),
   (0xFBD3, "bLETTER NG ISOLATED FORMdFINAL FORMdINITIAL FORMdMEDIAL FORMcU ISOLATED FORM"),
   (0xFBD8, "dFINAL FORMcOE ISOLATED FORMdFINAL FORMcYU ISOLATED FORMdFINAL FORM"),
   (0xFBDD, "cU WITH HAMZA ABOVE ISOLATED FORMcVE ISOLATED FORMdFINAL FORM"),
   (0xFBE0, "cKIRGHIZ OE ISOLATED FORMeFINAL FORMdYU ISOLATED FORMeFINAL FORM"),
   (0xFBE4, "cE ISOLATED FORMdFINAL FORMdINITIAL FORMdMEDIAL FORM"),
   (0xFBE8, "cUIGHUR KAZAKH KIRGHIZ ALEF MAKSURA INITIAL FORMhMEDIAL FORM"),
   (0xFBEA, "bLIGATURE YEH WITH HAMZA ABOVE WITH ALEF ISOLATED FORMiFINAL FORM"),
   (0xFBEC, "hAE ISOLATED FORMiFINAL FORMhWAW ISOLATED FORMiFINAL FORMhU ISOLATED FORM"),
   (0xFBF1, "iFINAL FORMhOE ISOLATED FORMiFINAL FORMhYU ISOLATED FORMiFINAL FORM"),
   (0xFBF6, "hE ISOLATED FORMiFINAL FORMiINITIAL FORM"),
   (0xFBF9, "cUIGHUR KIRGHIZ YEH WITH HAMZA ABOVE WITH ALEF MAKSURA ISOLATED FORMlFINAL FORM"),
   (0xFBFB, "lINITIAL FORMbLETTER FARSI YEH ISOLATED FORMeFINAL FORMeINITIAL FORM"),
   (0xFBFF, "eMEDIAL FORMbLIGATURE YEH WITH HAMZA ABOVE WITH JEEM ISOLATED FORM"),
   (0xFC01, "hHAH ISOLATED FORMhMEEM ISOLATED FORMhALEF MAKSURA ISOLATED FORM"),
   (0xFC04, "hYEH ISOLATED FORMcBEH WITH JEEM ISOLATED FORMeHAH ISOLATED FORM"),
   (0xFC07, "eKHAH ISOLATED FORMeMEEM ISOLATED FORMeALEF MAKSURA ISOLATED FORM"),
   (0xFC0A, "eYEH ISOLATED FORMcTEH WITH JEEM ISOLATED FORMeHAH ISOLATED FORM"),
   (0xFC0D, "eKHAH ISOLATED FORMeMEEM ISOLATED FORMeALEF MAKSURA ISOLATED FORM"),
   (0xFC10, "eYEH ISOLATED FORMcTHEH WITH JEEM ISOLATED FORMeMEEM ISOLATED FORM"),
   (0xFC13, "eALEF MAKSURA ISOLATED FORMeYEH ISOLATED FORMcJEEM WITH HAH ISOLATED FORM"),
   (0xFC16, "eMEEM ISOLATED FORMcHAH WITH JEEM ISOLATED FORMeMEEM ISOLATED FORM"),
   (0xFC19, "cKHAH WITH JEEM ISOLATED FORMeHAH ISOLATED FORMeMEEM ISOLATED FORM"),
   (0xFC1C, "cSEEN WITH JEEM ISOLATED FORMeHAH ISOLATED FORMeKHAH ISOLATED FORM"),
   (0xFC1F, "eMEEM ISOLATED FORMcSAD WITH HAH ISOLATED FORMeMEEM ISOLATED FORM"),
   (0xFC22, "cDAD WITH JEEM ISOLATED FORMeHAH ISOLATED FORMeKHAH ISOLATED FORM"),
   (0xFC25, "eMEEM ISOLATED FORMcTAH WITH HAH ISOLATED FORMeMEEM ISOLATED FORM"),
   (0xFC28, "cZAH WITH MEEM ISOLATED FORMcAIN WITH JEEM ISOLATED FORMeMEEM ISOLATED FORM"),
   (0xFC2B, "cGHAIN WITH JEEM ISOLATED FORMeMEEM ISOLATED FORMcFEH WITH JEEM ISOLATED FORM"),
   (0xFC2E, "eHAH ISOLATED FORMeKHAH ISOLATED FORMeMEEM ISOLATED FORM"),
   (0xFC31, "eALEF MAKSURA ISOLATED FORMeYEH ISOLATED FORMcQAF WITH HAH ISOLATED FORM"),
   (0xFC34, "eMEEM ISOLATED FORMeALEF MAKSURA ISOLATED FORMeYEH ISOLATED FORM"),
   (0xFC37, "cKAF WITH ALEF ISOLATED FORMeJEEM ISOLATED FORMeHAH ISOLATED FORM"),
   (0xFC3A, "eKHAH ISOLATED FORMeLAM ISOLATED FORMeMEEM ISOLATED FORM"),
   (0xFC3D, "eALEF MAKSURA ISOLATED FORMeYEH ISOLATED FORMcLAM WITH JEEM ISOLATED FORM"),
   (0xFC40, "eHAH ISOLATED FORMeKHAH ISOLATED FORMeMEEM ISOLATED FORM"),
   (0xFC43, "eALEF MAKSURA ISOLATED FORMeYEH ISOLATED FORMcMEEM WITH JEEM ISOLATED FORM"),
   (0xFC46, "eHAH ISOLATED FORMeKHAH ISOLATED FORMeMEEM ISOLATED FORM"),
   (0xFC49, "eALEF MAKSURA ISOLATED FORMeYEH ISOLATED FORMcNOON WITH JEEM ISOLATED FORM"),
   (0xFC4C, "eHAH ISOLATED FORMeKHAH ISOLATED FORMeMEEM ISOLATED FORM"),
   (0xFC4F, "eALEF MAKSURA ISOLATED FORMeYEH ISOLATED FORMcHEH WITH JEEM ISOLATED FORM"),
   (0xFC52, "eMEEM ISOLATED FORMeALEF MAKSURA ISOLATED FORMeYEH ISOLATED FORM"),
   (0xFC55, "cYEH WITH JEEM ISOLATED FORMeHAH ISOLATED FORMeKHAH ISOLATED FORM"),
   (0xFC58, "eMEEM ISOLATED FORMeALEF MAKSURA ISOLATED FORMeYEH ISOLATED FORM"),
   (0xFC5B, "cTHAL WITH SUPERSCRIPT ALEF ISOLATED FORM"),
   (0xFC5C, "cREH WITH SUPERSCRIPT ALEF ISOLATED FORM"),
   (0xFC5D, "cALEF MAKSURA WITH SUPERSCRIPT ALEF ISOLATED FORM"),
   (0xFC5E, "cSHADDA WITH DAMMATAN ISOLATED FORMeKASRATAN ISOLATED FORMeFATHA ISOLATED FORM"),
   (0xFC61, "eDAMMA ISOLATED FORMeKASRA ISOLATED FORMeSUPERSCRIPT ALEF ISOLATED FORM"),
   (0xFC64, "cYEH WITH HAMZA ABOVE WITH REH FINAL FORMhZAIN FINAL FORMhMEEM FINAL FORM"),
   (0xFC67, "hNOON FINAL FORMhALEF MAKSURA FINAL FORMhYEH FINAL FORMcBEH WITH REH FINAL FORM"),
   (0xFC6B, "eZAIN FINAL FORMeMEEM FINAL FORMeNOON FINAL FORMeALEF MAKSURA FINAL FORM"),
   (0xFC6F, "eYEH FINAL FORMcTEH WITH REH FINAL FORMeZAIN FINAL FORMeMEEM FINAL FORM"),
   (0xFC73, "eNOON FINAL FORMeALEF MAKSURA FINAL FORMeYEH FINAL FORM"),
   (0xFC76, "cTHEH WITH REH FINAL FORMeZAIN FINAL FORMeMEEM FINAL FORMeNOON FINAL FORM"),
   (0xFC7A, "eALEF MAKSURA FINAL FORMeYEH FINAL FORMcFEH WITH ALEF MAKSURA FINAL FORM"),
   (0xFC7D, "eYEH FINAL FORMcQAF WITH ALEF MAKSURA FINAL FORMeYEH FINAL FORM"),
   (0xFC80, "cKAF WITH ALEF FINAL FORMeLAM FINAL FORMeMEEM FINAL FORM"),
   (0xFC83, "eALEF MAKSURA FINAL FORMeYEH FINAL FORMcLAM WITH MEEM FINAL FORM"),
   (0xFC86, "eALEF MAKSURA FINAL FORMeYEH FINAL FORMcMEEM WITH ALEF FINAL FORM"),
   (0xFC89, "eMEEM FINAL FORMcNOON WITH REH FINAL FORMeZAIN FINAL FORMeMEEM FINAL FORM"),
   (0xFC8D, "eNOON FINAL FORMeALEF MAKSURA FINAL FORMeYEH FINAL FORM"),
   (0xFC90, "cALEF MAKSURA WITH SUPERSCRIPT ALEF FINAL FORMcYEH WITH REH FINAL FORM"),
   (0xFC92, "eZAIN FINAL FORMeMEEM FINAL FORMeNOON FINAL FORMeALEF MAKSURA FINAL FORM"),
   (0xFC96, "eYEH FINAL FORMeHAMZA ABOVE WITH JEEM INITIAL FORMhHAH INITIAL FORM"),
   (0xFC99, "hKHAH INITIAL FORMhMEEM INITIAL FORMhHEH INITIAL FORM"),
   (0xFC9C, "cBEH WITH JEEM INITIAL FORMeHAH INITIAL FORMeKHAH INITIAL FORM"),
   (0xFC9F, "eMEEM INITIAL FORMeHEH INITIAL FORMcTEH WITH JEEM INITIAL FORMeHAH INITIAL FORM"),
   (0xFCA3, "eKHAH INITIAL FORMeMEEM INITIAL FORMeHEH INITIAL FORM"),
   (0xFCA6, "cTHEH WITH MEEM INITIAL FORMcJEEM WITH HAH INITIAL FORMeMEEM INITIAL FORM"),
   (0xFCA9, "cHAH WITH JEEM INITIAL FORMeMEEM INITIAL FORMcKHAH WITH JEEM INITIAL FORM"),
   (0xFCAC, "eMEEM INITIAL FORMcSEEN WITH JEEM INITIAL FORMeHAH INITIAL FORM"),
   (0xFCAF, "eKHAH INITIAL FORMeMEEM INITIAL FORMcSAD WITH HAH INITIAL FORM"),
   (0xFCB2, "eKHAH INITIAL FORMeMEEM INITIAL FORMcDAD WITH JEEM INITIAL FORM"),
   (0xFCB5, "eHAH INITIAL FORMeKHAH INITIAL FORMeMEEM INITIAL FORMcTAH WITH HAH INITIAL FORM"),
   (0xFCB9, "cZAH WITH MEEM INITIAL FORMcAIN WITH JEEM INITIAL FORMeMEEM INITIAL FORM"),
   (0xFCBC, "cGHAIN WITH JEEM INITIAL FORMeMEEM INITIAL FORMcFEH WITH JEEM INITIAL FORM"),
   (0xFCBF, "eHAH INITIAL FORMeKHAH INITIAL FORMeMEEM INITIAL FORMcQAF WITH HAH INITIAL FORM"),
   (0xFCC3, "eMEEM INITIAL FORMcKAF WITH JEEM INITIAL FORMeHAH INITIAL FORM"),
   (0xFCC6, "eKHAH INITIAL FORMeLAM INITIAL FORMeMEEM INITIAL FORM"),
   (0xFCC9, "cLAM WITH JEEM INITIAL FORMeHAH INITIAL FORMeKHAH INITIAL FORM"),
   (0xFCCC, "eMEEM INITIAL FORMeHEH INITIAL FORMcMEEM WITH JEEM INITIAL FORM"),
   (0xFCCF, "eHAH INITIAL FORMeKHAH INITIAL FORMeMEEM INITIAL FORM"),
   (0xFCD2, "cNOON WITH JEEM INITIAL FORMeHAH INITIAL FORMeKHAH INITIAL FORM"),
   (0xFCD5, "eMEEM INITIAL FORMeHEH INITIAL FORMcHEH WITH JEEM INITIAL FORM"),
   (0xFCD8, "eMEEM INITIAL FORMeSUPERSCRIPT ALEF INITIAL FORMcYEH WITH JEEM INITIAL FORM"),
   (0xFCDB, "eHAH INITIAL FORMeKHAH INITIAL FORMeMEEM INITIAL FORMeHEH INITIAL FORM"),
   (0xFCDF, "eHAMZA ABOVE WITH MEEM MEDIAL FORMhHEH MEDIAL FORMcBEH WITH MEEM MEDIAL FORM"),
   (0xFCE2, "eHEH MEDIAL FORMcTEH WITH MEEM MEDIAL FORMeHEH MEDIAL FORM"),
   (0xFCE5, "cTHEH WITH MEEM MEDIAL FORMeHEH MEDIAL FORMcSEEN WITH MEEM MEDIAL FORM"),
   (0xFCE8, "eHEH MEDIAL FORMcSHEEN WITH MEEM MEDIAL FORMeHEH MEDIAL FORM"),
   (0xFCEB, "cKAF WITH LAM MEDIAL FORMeMEEM MEDIAL FORMcLAM WITH MEEM MEDIAL FORM"),
   (0xFCEE, "cNOON WITH MEEM MEDIAL FORMeHEH MEDIAL FORMcYEH WITH MEEM MEDIAL FORM"),
   (0xFCF1, "eHEH MEDIAL FORMcSHADDA WITH FATHA MEDIAL FORMeDAMMA MEDIAL FORM"),
   (0xFCF4, "eKASRA MEDIAL FORMcTAH WITH ALEF MAKSURA ISOLATED FORMeYEH ISOLATED FORM"),
   (0xFCF7, "cAIN WITH ALEF MAKSURA ISOLATED FORMeYEH ISOLATED FORM"),
   (0xFCF9, "cGHAIN WITH ALEF MAKSURA ISOLATED FORMeYEH ISOLATED FORM"),
   (0xFCFB, "cSEEN WITH ALEF MAKSURA ISOLATED FORMeYEH ISOLATED FORM"),
   (0xFCFD, "cSHEEN WITH ALEF MAKSURA ISOLATED FORMeYEH ISOLATED FORM"),
   (0xFCFF, "cHAH WITH ALEF MAKSURA ISOLATED FORMeYEH ISOLATED FORM"),
   (0xFD01, "cJEEM WITH ALEF MAKSURA ISOLATED FORMeYEH ISOLATED FORM"),
   (0xFD03, "cKHAH WITH ALEF MAKSURA ISOLATED FORMeYEH ISOLATED FORM"),
   (0xFD05, "cSAD WITH ALEF MAKSURA ISOLATED FORMeYEH ISOLATED FORM"),
   (0xFD07, "cDAD WITH ALEF MAKSURA ISOLATED FORMeYEH ISOLATED FORM"),
   (0xFD09, "cSHEEN WITH JEEM ISOLATED FORMeHAH ISOLATED FORMeKHAH ISOLATED FORM"),
   (0xFD0C, "eMEEM ISOLATED FORMeREH ISOLATED FORMcSEEN WITH REH ISOLATED FORM"),
   (0xFD0F, "cSAD WITH REH ISOLATED FORMcDAD WITH REH ISOLATED FORM"),
   (0xFD11, "cTAH WITH ALEF MAKSURA FINAL FORMeYEH FINAL FORM"),
   (0xFD13, "cAIN WITH ALEF MAKSURA FINAL FORMeYEH FINAL FORM"),
   (0xFD15, "cGHAIN WITH ALEF MAKSURA FINAL FORMeYEH FINAL FORM"),
   (0xFD17, "cSEEN WITH ALEF MAKSURA FINAL FORMeYEH FINAL FORM"),
   (0xFD19, "cSHEEN WITH ALEF MAKSURA FINAL FORMeYEH FINAL FORM"),
   (0xFD1B, "cHAH WITH ALEF MAKSURA FINAL FORMeYEH FINAL FORM"),
   (0xFD1D, "cJEEM WITH ALEF MAKSURA FINAL FORMeYEH FINAL FORM"),
   (0xFD1F, "cKHAH WITH ALEF MAKSURA FINAL FORMeYEH FINAL FORM"),
   (0xFD21, "cSAD WITH ALEF MAKSURA FINAL FORMeYEH FINAL FORM"),
   (0xFD23, "cDAD WITH ALEF MAKSURA FINAL FORMeYEH FINAL FORMcSHEEN WITH JEEM FINAL FORM"),
   (0xFD26, "eHAH FINAL FORMeKHAH FINAL FORMeMEEM FINAL FORMeREH FINAL FORM"),
   (0xFD2A, "cSEEN WITH REH FINAL FORMcSAD WITH REH FINAL FORMcDAD WITH REH FINAL FORM"),
   (0xFD2D, "cSHEEN WITH JEEM INITIAL FORMeHAH INITIAL FORMeKHAH INITIAL FORM"),
   (0xFD30, "eMEEM INITIAL FORMcSEEN WITH HEH INITIAL FORMcSHEEN WITH HEH INITIAL FORM"),
   (0xFD33, "cTAH WITH MEEM INITIAL FORMcSEEN WITH JEEM MEDIAL FORMeHAH MEDIAL FORM"),
   (0xFD36, "eKHAH MEDIAL FORMcSHEEN WITH JEEM MEDIAL FORMeHAH MEDIAL FORMeKHAH MEDIAL FORM"),
   (0xFD3A, "cTAH WITH MEEM MEDIAL FORMcZAH WITH MEEM MEDIAL FORM"),
   (0xFD3C, "cALEF WITH FATHATAN FINAL FORMfISOLATED FORMaORNATE LEFT PARENTHESIS"),
   (0xFD3F, "bRIGHT PARENTHESISaARABIC LIGATURE RAHIMAHU ALLAAHcRADI ALLAAHU ANHeANHAAeANHUM"),
   (0xFD44, "eANHUMAAeANHUNNAcSALLALLAAHU ALAYHI WA-AALIHcALAYHI AS-SALAAMcALAYHIM AS-SALAAM"),
   (0xFD49, "cALAYHIMAA AS-SALAAMcALAYHI AS-SALAATU WAS-SALAAMcQUDDISA SIRRAH"),
   (0xFD4C, "cSALLALLAHU ALAYHI WAAALIHEE WA-SALLAMcALAYHAA AS-SALAAMcTABAARAKA WA-TAAALAA"),
   (0xFD4F, "cRAHIMAHUM ALLAAHcTEH WITH JEEM WITH MEEM INITIAL FORMeHAH WITH JEEM FINAL FORM"),
   (0xFD52, "hINITIAL FORMgMEEM INITIAL FORMeKHAH WITH MEEM INITIAL FORM"),
   (0xFD55, "eMEEM WITH JEEM INITIAL FORMgHAH INITIAL FORMgKHAH INITIAL FORM"),
   (0xFD58, "cJEEM WITH MEEM WITH HAH FINAL FORMhINITIAL FORM"),
   (0xFD5A, "cHAH WITH MEEM WITH YEH FINAL FORMgALEF MAKSURA FINAL FORM"),
   (0xFD5C, "cSEEN WITH HAH WITH JEEM INITIAL FORMeJEEM WITH HAH INITIAL FORM"),
   (0xFD5E, "gALEF MAKSURA FINAL FORMeMEEM WITH HAH FINAL FORMhINITIAL FORM"),
   (0xFD61, "gJEEM INITIAL FORMgMEEM FINAL FORMhINITIAL FORM"),
   (0xFD64, "cSAD WITH HAH WITH HAH FINAL FORMhINITIAL FORMeMEEM WITH MEEM FINAL FORM"),
   (0xFD67, "cSHEEN WITH HAH WITH MEEM FINAL FORMhINITIAL FORMeJEEM WITH YEH FINAL FORM"),
   (0xFD6A, "eMEEM WITH KHAH FINAL FORMhINITIAL FORMgMEEM FINAL FORMhINITIAL FORM"),
   (0xFD6E, "cDAD WITH HAH WITH ALEF MAKSURA FINAL FORMeKHAH WITH MEEM FINAL FORM"),
   (0xFD70, "hINITIAL FORMcTAH WITH MEEM WITH HAH FINAL FORMhINITIAL FORMgMEEM INITIAL FORM"),
   (0xFD74, "gYEH FINAL FORMcAIN WITH JEEM WITH MEEM FINAL FORMeMEEM WITH MEEM FINAL FORM"),
   (0xFD77, "hINITIAL FORMgALEF MAKSURA FINAL FORMcGHAIN WITH MEEM WITH MEEM FINAL FORM"),
   (0xFD7A, "gYEH FINAL FORMgALEF MAKSURA FINAL FORMcFEH WITH KHAH WITH MEEM FINAL FORM"),
   (0xFD7D, "hINITIAL FORMcQAF WITH MEEM WITH HAH FINAL FORMgMEEM FINAL FORM"),
   (0xFD80, "cLAM WITH HAH WITH MEEM FINAL FORMgYEH FINAL FORMgALEF MAKSURA FINAL FORM"),
   (0xFD83, "eJEEM WITH JEEM INITIAL FORMhFINAL FORMeKHAH WITH MEEM FINAL FORMhINITIAL FORM"),
   (0xFD87, "eMEEM WITH HAH FINAL FORMhINITIAL FORMcMEEM WITH HAH WITH JEEM INITIAL FORM"),
   (0xFD8A, "gMEEM INITIAL FORMgYEH FINAL FORMeJEEM WITH HAH INITIAL FORMgMEEM INITIAL FORM"),
   (0xFD8E, "eKHAH WITH JEEM INITIAL FORMgMEEM INITIAL FORM"),
   (0xFD92, "eJEEM WITH KHAH INITIAL FORMcHEH WITH MEEM WITH JEEM INITIAL FORM"),
   (0xFD94, "gMEEM INITIAL FORMcNOON WITH HAH WITH MEEM INITIAL FORMgALEF MAKSURA FINAL FORM"),
   (0xFD97, "eJEEM WITH MEEM FINAL FORMhINITIAL FORMgALEF MAKSURA FINAL FORM"),
   (0xFD9A, "eMEEM WITH YEH FINAL FORMgALEF MAKSURA FINAL FORM"),
   (0xFD9C, "cYEH WITH MEEM WITH MEEM FINAL FORMhINITIAL FORM"),
   (0xFD9E, "cBEH WITH KHAH WITH YEH FINAL FORMcTEH WITH JEEM WITH YEH FINAL FORM"),
   (0xFDA0, "gALEF MAKSURA FINAL FORMeKHAH WITH YEH FINAL FORMgALEF MAKSURA FINAL FORM"),
   (0xFDA3, "eMEEM WITH YEH FINAL FORMgALEF MAKSURA FINAL FORM"),
   (0xFDA5, "cJEEM WITH MEEM WITH YEH FINAL FORMeHAH WITH ALEF MAKSURA FINAL FORM"),
   (0xFDA7, "eMEEM WITH ALEF MAKSURA FINAL FORMcSEEN WITH KHAH WITH ALEF MAKSURA FINAL FORM"),
   (0xFDA9, "cSAD WITH HAH WITH YEH FINAL FORMcSHEEN WITH HAH WITH YEH FINAL FORM"),
   (0xFDAB, "cDAD WITH HAH WITH YEH FINAL FORMcLAM WITH JEEM WITH YEH FINAL FORM"),
   (0xFDAD, "eMEEM WITH YEH FINAL FORMcYEH WITH HAH WITH YEH FINAL FORM"),
   (0xFDAF, "eJEEM WITH YEH FINAL FORMeMEEM WITH YEH FINAL FORM"),
   (0xFDB1, "cMEEM WITH MEEM WITH YEH FINAL FORMcQAF WITH MEEM WITH YEH FINAL FORM"),
   (0xFDB3, "cNOON WITH HAH WITH YEH FINAL FORMcQAF WITH MEEM WITH HAH INITIAL FORM"),
   (0xFDB5, "cLAM WITH HAH WITH MEEM INITIAL FORMcAIN WITH MEEM WITH YEH FINAL FORM"),
   (0xFDB7, "cKAF WITH MEEM WITH YEH FINAL FORMcNOON WITH JEEM WITH HAH INITIAL FORM"),
   (0xFDB9, "cMEEM WITH KHAH WITH YEH FINAL FORMcLAM WITH JEEM WITH MEEM INITIAL FORM"),
   (0xFDBB, "cKAF WITH MEEM WITH MEEM FINAL FORMcLAM WITH JEEM WITH MEEM FINAL FORM"),
   (0xFDBD, "cNOON WITH JEEM WITH HAH FINAL FORMcJEEM WITH HAH WITH YEH FINAL FORM"),
   (0xFDBF, "cHAH WITH JEEM WITH YEH FINAL FORMcMEEM WITH JEEM WITH YEH FINAL FORM"),
   (0xFDC1, "cFEH WITH MEEM WITH YEH FINAL FORMcBEH WITH HAH WITH YEH FINAL FORM"),
   (0xFDC3, "cKAF WITH MEEM WITH MEEM INITIAL FORMcAIN WITH JEEM WITH MEEM INITIAL FORM"),
   (0xFDC5, "cSAD WITH MEEM WITH MEEM INITIAL FORMcSEEN WITH KHAH WITH YEH FINAL FORM"),
   (0xFDC7, "cNOON WITH JEEM WITH YEH FINAL FORM"), (0xFDCF, "cSALAAMUHU ALAYNAA"),
   (0xFDF0, "cSALLA USED AS KORANIC STOP SIGN ISOLATED FORM"),
   (0xFDF1, "cQALA USED AS KORANIC STOP SIGN ISOLATED FORMcALLAH ISOLATED FORM"),
   (0xFDF3, "cAKBAR ISOLATED FORMcMOHAMMAD ISOLATED FORMcSALAM ISOLATED FORM"),
   (0xFDF6, "cRASOUL ISOLATED FORMcALAYHE ISOLATED FORMcWASALLAM ISOLATED FORM"),
   (0xFDF9, "cSALLA ISOLATED FORMcSALLALLAHOU ALAYHE WASALLAMcJALLAJALALOUHOUaRIAL SIGN"),
   (0xFDFD, "aARABIC LIGATURE BISMILLAH AR-RAHMAN AR-RAHEEMcSUBHAANAHU WA TAAALAA"),
   (0xFDFF, "cAZZA WA JALLaVARIATION SELECTOR-1bSELECTOR-2bSELECTOR-3bSELECTOR-4bSELECTOR-5"),
   (0xFE05, "bSELECTOR-6bSELECTOR-7bSELECTOR-8bSELECTOR-9bSELECTOR-10bSELECTOR-11"),
   (0xFE0B, "bSELECTOR-12bSELECTOR-13bSELECTOR-14bSELECTOR-15bSELECTOR-16"),
   (0xFE10, "aPRESENTATION FORM FOR VERTICAL COMMAeIDEOGRAPHIC COMMAfFULL STOPeCOLON"),
   (0xFE14, "eSEMICOLONeEXCLAMATION MARKeQUESTION MARKeLEFT WHITE LENTICULAR BRACKET"),
   (0xFE18, "eRIGHT WHITE LENTICULAR BRAKCETeHORIZONTAL ELLIPSIS"),
   (0xFE20, "aCOMBINING LIGATURE LEFT HALFcRIGHT HALFbDOUBLE TILDE LEFT HALFdRIGHT HALF"),
   (0xFE24, "bMACRON LEFT HALFcRIGHT HALFbCONJOINING MACRONbLIGATURE LEFT HALF BELOW"),
   (0xFE28, "cRIGHT HALF BELOWbTILDE LEFT HALF BELOWcRIGHT HALF BELOWbMACRON LEFT HALF BELOW"),
   (0xFE2C, "cRIGHT HALF BELOWbCONJOINING MACRON BELOWbCYRILLIC TITLO LEFT HALFdRIGHT HALF"),
   (0xFE30, "aPRESENTATION FORM FOR VERTICAL TWO DOT LEADEReEM DASHeEN DASHeLOW LINE"),
   (0xFE34, "eWAVY LOW LINEeLEFT PARENTHESISeRIGHT PARENTHESISeLEFT CURLY BRACKET"),
   (0xFE38, "eRIGHT CURLY BRACKETeLEFT TORTOISE SHELL BRACKETeRIGHT TORTOISE SHELL BRACKET"),
   (0xFE3B, "eLEFT BLACK LENTICULAR BRACKETeRIGHT BLACK LENTICULAR BRACKET"),
   (0xFE3D, "eLEFT DOUBLE ANGLE BRACKETeRIGHT DOUBLE ANGLE BRACKETeLEFT ANGLE BRACKET"),
   (0xFE40, "eRIGHT ANGLE BRACKETeLEFT CORNER BRACKETeRIGHT CORNER BRACKET"),
   (0xFE43, "eLEFT WHITE CORNER BRACKETeRIGHT WHITE CORNER BRACKETaSESAME DOT"),
   (0xFE46, "aWHITE SESAME DOTaPRESENTATION FORM FOR VERTICAL LEFT SQUARE BRACKET"),
   (0xFE48, "eRIGHT SQUARE BRACKETaDASHED OVERLINEaCENTRELINE OVERLINEaWAVY OVERLINE"),
   (0xFE4C, "aDOUBLE WAVY OVERLINEaDASHED LOW LINEaCENTRELINE LOW LINEaWAVY LOW LINE"),
   (0xFE50, "aSMALL COMMAbIDEOGRAPHIC COMMAbFULL STOP"),
   (0xFE54, "bSEMICOLONbCOLONbQUESTION MARKbEXCLAMATION MARKbEM DASHbLEFT PARENTHESIS"),
   (0xFE5A, "bRIGHT PARENTHESISbLEFT CURLY BRACKETbRIGHT CURLY BRACKET"),
   (0xFE5D, "bLEFT TORTOISE SHELL BRACKETbRIGHT TORTOISE SHELL BRACKETbNUMBER SIGNbAMPERSAND"),
   (0xFE61, "bASTERISKbPLUS SIGNbHYPHEN-MINUSbLESS-THAN SIGNbGREATER-THAN SIGNbEQUALS SIGN"),
   (0xFE68, "bREVERSE SOLIDUSbDOLLAR SIGNbPERCENT SIGNbCOMMERCIAL AT"),
   (0xFE70, "aARABIC FATHATAN ISOLATED FORMbTATWEEL WITH FATHATAN ABOVE"),
   (0xFE72, "bDAMMATAN ISOLATED FORMbTAIL FRAGMENTbKASRATAN ISOLATED FORM"),
   (0xFE76, "bFATHA ISOLATED FORMcMEDIAL FORMbDAMMA ISOLATED FORMcMEDIAL FORM"),
   (0xFE7A, "bKASRA ISOLATED FORMcMEDIAL FORMbSHADDA ISOLATED FORMcMEDIAL FORM"),
   (0xFE7E, "bSUKUN ISOLATED FORMcMEDIAL FORMbLETTER HAMZA ISOLATED FORM"),
   (0xFE81, "cALEF WITH MADDA ABOVE ISOLATED FORMgFINAL FORMeHAMZA ABOVE ISOLATED FORM"),
   (0xFE84, "gFINAL FORMcWAW WITH HAMZA ABOVE ISOLATED FORMgFINAL FORM"),
   (0xFE87, "cALEF WITH HAMZA BELOW ISOLATED FORMgFINAL FORM"),
   (0xFE89, "cYEH WITH HAMZA ABOVE ISOLATED FORMgFINAL FORMgINITIAL FORMgMEDIAL FORM"),
   (0xFE8D, "cALEF ISOLATED FORMdFINAL FORMcBEH ISOLATED FORMdFINAL FORMdINITIAL FORM"),
   (0xFE92, "dMEDIAL FORMcTEH MARBUTA ISOLATED FORMeFINAL FORMdISOLATED FORMdFINAL FORM"),
   (0xFE97, "dINITIAL FORMdMEDIAL FORMcTHEH ISOLATED FORMdFINAL FORMdINITIAL FORM"),
   (0xFE9C, "dMEDIAL FORMcJEEM ISOLATED FORMdFINAL FORMdINITIAL FORMdMEDIAL FORM"),
   (0xFEA1, "cHAH ISOLATED FORMdFINAL FORMdINITIAL FORMdMEDIAL FORMcKHAH ISOLATED FORM"),
   (0xFEA6, "dFINAL FORMdINITIAL FORMdMEDIAL FORMcDAL ISOLATED FORMdFINAL FORM"),
   (0xFEAB, "cTHAL ISOLATED FORMdFINAL FORMcREH ISOLATED FORMdFINAL FORMcZAIN ISOLATED FORM"),
   (0xFEB0, "dFINAL FORMcSEEN ISOLATED FORMdFINAL FORMdINITIAL FORMdMEDIAL FORM"),
   (0xFEB5, "cSHEEN ISOLATED FORMdFINAL FORMdINITIAL FORMdMEDIAL FORMcSAD ISOLATED FORM"),
   (0xFEBA, "dFINAL FORMdINITIAL FORMdMEDIAL FORMcDAD ISOLATED FORMdFINAL FORMdINITIAL FORM"),
   (0xFEC0, "dMEDIAL FORMcTAH ISOLATED FORMdFINAL FORMdINITIAL FORMdMEDIAL FORM"),
   (0xFEC5, "cZAH ISOLATED FORMdFINAL FORMdINITIAL FORMdMEDIAL FORMcAIN ISOLATED FORM"),
   (0xFECA, "dFINAL FORMdINITIAL FORMdMEDIAL FORMcGHAIN ISOLATED FORMdFINAL FORM"),
   (0xFECF, "dINITIAL FORMdMEDIAL FORMcFEH ISOLATED FORMdFINAL FORMdINITIAL FORMdMEDIAL FORM"),
   (0xFED5, "cQAF ISOLATED FORMdFINAL FORMdINITIAL FORMdMEDIAL FORMcKAF ISOLATED FORM"),
   (0xFEDA, "dFINAL FORMdINITIAL FORMdMEDIAL FORMcLAM ISOLATED FORMdFINAL FORMdINITIAL FORM"),
   (0xFEE0, "dMEDIAL FORMcMEEM ISOLATED FORMdFINAL FORMdINITIAL FORMdMEDIAL FORM"),
   (0xFEE5, "cNOON ISOLATED FORMdFINAL FORMdINITIAL FORMdMEDIAL FORMcHEH ISOLATED FORM"),
   (0xFEEA, "dFINAL FORMdINITIAL FORMdMEDIAL FORMcWAW ISOLATED FORMdFINAL FORM"),
   (0xFEEF, "cALEF MAKSURA ISOLATED FORMeFINAL FORMcYEH ISOLATED FORMdFINAL FORM"),
   (0xFEF3, "dINITIAL FORMdMEDIAL FORMbLIGATURE LAM WITH ALEF WITH MADDA ABOVE ISOLATED FORM"),
   (0xFEF6, "iFINAL FORMgHAMZA ABOVE ISOLATED FORMiFINAL FORMhBELOW ISOLATED FORMiFINAL FORM"),
   (0xFEFB, "fISOLATED FORMfFINAL FORM"), (0xFEFF, "aZERO WIDTH NO-BREAK SPACE"),
   (0xFF01, "aFULLWIDTH EXCLAMATION MARKbQUOTATION MARKbNUMBER SIGNbDOLLAR SIGNbPERCENT SIGN"),
   (0xFF06, "bAMPERSANDbAPOSTROPHEbLEFT PARENTHESISbRIGHT PARENTHESISbASTERISKbPLUS SIGN"),
   (0xFF0C, "bCOMMAbHYPHEN-MINUSbFULL STOPbSOLIDUSbDIGIT ZEROcONEcTWOcTHREEcFOURcFIVEcSIX"),
   (0xFF17, "cSEVENcEIGHTcNINEbCOLONbSEMICOLONbLESS-THAN SIGNbEQUALS SIGNbGREATER-THAN SIGN"),
   (0xFF1F, "bQUESTION MARKbCOMMERCIAL ATbLATIN CAPITAL LETTER AeBeCeDeEeFeGeHeIeJeKeLeMeNeO"),
   (0xFF30, "ePeQeReSeTeUeVeWeXeYeZbLEFT SQUARE BRACKETbREVERSE SOLIDUSbRIGHT SQUARE BRACKET"),
   (0xFF3E, "bCIRCUMFLEX ACCENTbLOW LINEbGRAVE ACCENTbLATIN SMALL LETTER AeBeCeDeEeFeGeHeIeJ"),
   (0xFF4B, "eKeLeMeNeOePeQeReSeTeUeVeWeXeYeZbLEFT CURLY BRACKETbVERTICAL LINE"),
   (0xFF5D, "bRIGHT CURLY BRACKETbTILDEbLEFT WHITE PARENTHESISbRIGHT WHITE PARENTHESIS"),
   (0xFF61, "aHALFWIDTH IDEOGRAPHIC FULL STOPbLEFT CORNER BRACKETbRIGHT CORNER BRACKET"),
   (0xFF64, "bIDEOGRAPHIC COMMAbKATAKANA MIDDLE DOTcLETTER WOdSMALL AeIeUeEeOeYAeYUeYOeTU"),
   (0xFF70, "bKATAKANA-HIRAGANA PROLONGED SOUND MARKbKATAKANA LETTER AdIdUdEdOdKAdKIdKUdKE"),
   (0xFF7A, "dKOdSAdSIdSUdSEdSOdTAdTIdTUdTEdTOdNAdNIdNUdNEdNOdHAdHIdHUdHEdHOdMAdMIdMUdMEdMO"),
   (0xFF94, "dYAdYUdYOdRAdRIdRUdREdROdWAdNcVOICED SOUND MARKcSEMI-VOICED SOUND MARK"),
   (0xFFA0, "bHANGUL FILLERcLETTER KIYEOKdSSANGKIYEOKdKIYEOK-SIOSdNIEUNdNIEUN-CIEUC"),
   (0xFFA6, "dNIEUN-HIEUHdTIKEUTdSSANGTIKEUTdRIEULdRIEUL-KIYEOKdRIEUL-MIEUMdRIEUL-PIEUP"),
   (0xFFAD, "dRIEUL-SIOSdRIEUL-THIEUTHdRIEUL-PHIEUPHdRIEUL-HIEUHdMIEUMdPIEUPdSSANGPIEUP"),
   (0xFFB4, "dPIEUP-SIOSdSIOSdSSANGSIOSdIEUNGdCIEUCdSSANGCIEUCdCHIEUCHdKHIEUKHdTHIEUTH"),
   (0xFFBD, "dPHIEUPHdHIEUH"), (0xFFC2, "dAdAEdYAdYAEdEOdE"), (0xFFCA, "dYEOdYEdOdWAdWAEdOE"),
   (0xFFD2, "dYOdUdWEOdWEdWIdYU"), (0xFFDA, "dEUdYIdI"),
   (0xFFE0, "aFULLWIDTH CENT SIGNbPOUND SIGNbNOT SIGNbMACRONbBROKEN BARbYEN SIGNbWON SIGN"),
   (0xFFE8, "aHALFWIDTH FORMS LIGHT VERTICALbLEFTWARDS ARROWbUPWARDS ARROWbRIGHTWARDS ARROW"),
   (0xFFEC, "bDOWNWARDS ARROWbBLACK SQUAREbWHITE CIRCLE"),
   (0xFFF9, "aINTERLINEAR ANNOTATION ANCHORcSEPARATORcTERMINATOR"),
   (0xFFFC, "aOBJECT REPLACEMENT CHARACTERaREPLACEMENT CHARACTER")]

end Scriptlet.Text.CharacterNames
