/-
# Names of characters from U+16800 to U+1CFC3

Bamum, Tangut components, kana supplements and musical signs of old.
-/

namespace Scriptlet.Text.CharacterNames

def furtherScripts : List (Nat × String) :=
  [(0x16800, "aBAMUM LETTER PHASE-A NGKUE MFONdGBIEE FONdPON MFON PIPAEMGBIEEfPIPAEMBA"),
   (0x16804, "dNAA MFONdSHUENSHUETdTITA MFONdNZA MFONdSHINDA PA NJIdPON PA NJI PIPAEMGBIEE"),
   (0x1680A, "gPIPAEMBAdMAEMBGBIEEdTU MAEMBAdNGANGUdMAEMVEUXdMANSUAEdMVEUAENGAMdSEUNYAM"),
   (0x16812, "dNTOQPENdKEUKEUTNDAdNKINDIdSUUdNGKUENZEUMdLAPAQdLET KUTdNTAP MFAAdMAEKEUP"),
   (0x1681B, "dPASHAEdGHEUAERAEdPAMSHAEdMON NGGEUAETdNZUN MEUTdU YUQ NAEdGHEUAEGHEUAE"),
   (0x16822, "dNTAP NTAAdSISAdMGBASAdMEUNJOMNDEUQdMOOMPUQdKAFAdPA LEERAEWAdNDA LEERAEWAdPET"),
   (0x1682B, "dMAEMKPENdNIKAdPUPdTUAEPdLUAEPdSONJAMdTEUTEUWENdMAENYIdKETdNDAANGGEUAETdKUOQ"),
   (0x16836, "dMOOMEUTdSHUMdLOMMAEdFIRIdROMdKPOQdSOQdMAP PIEETdSHIRAEdNTAPdSHOQ NSHUT YUM"),
   (0x16841, "dNYIT MONGKEUAEQdPAARAEdNKAARAEdUNKNOWNdNGGENdMAESIdNJAMdMBANYIdNYETdTEUAENdSOT"),
   (0x1684C, "dPAAMdNSHIEEdMAEMdNYIdKAQdNSHAdVEEdLUdNENdNAQdMBAQcPHASE-B NSHUETdTU MAEMGBIEE"),
   (0x16859, "dSIEEdSET TUdLOM NTEUMdMBA MAELEEdKIEEMdYEURAEdMBAARAEdKAMdPEESHIdYAFU LEERAEWA"),
   (0x16863, "dLAM NSHUT NYAMdNTIEE SHEUOQdNDU NJAAdGHEUGHEUAEMdPITdTU NSIEEdSHET NJAQ"),
   (0x1686A, "dSHEUAEQTUdMFON TEUAEQdMBIT MBAAKETdNYI NTEUMdKEUPUQdGHEUGHENdKEUYEUXdLAANAE"),
   (0x16872, "dPARUMdVEUMdNGKINDI MVOPdNGGEU MBUdWUAETdSAKEUAEdTAAMdMEUQdNGGUOQeLARGEdMFIYAQ"),
   (0x1687D, "dSUEdMBEURIdMONTIEENdNYAEMAEdPUNGAAMdMEUT NGGEETdFEUXdMBUOQdFEEdKEUAEM"),
   (0x16887, "dMA NJEUAENAeNJUQAdLETdNGGAAMdNSENdMAdKIQdNGOMcPHASE-C NGKUE MAEMBAdNZAdYUM"),
   (0x16892, "dWANGKUOQdNGGENdNDEUAEREEdNGKAQdGHARAEdMBEEKEETdGBAYIdNYIR MKPARAQ MEUN"),
   (0x1689A, "dNTU MBITdMBEUMdPIRIEENdNDOMBUdMBAA CABBAGE-TREEdKEUSHEUAEPdGHAPdKEUKAQ"),
   (0x168A2, "dYU MUOMAEdNZEUMdMBUEdNSEUAENdMBITdYEUQdKPARAQdKAAdSEUXdNDIDAdTAASHAEdNJUEQ"),
   (0x168AE, "dTITA YUEdSUAETdNGGUAEN NYAMdVEUXdNANSANAQdMA KEUAERIdNTAAdNGGUONdLAPdMBIRIEEN"),
   (0x168B8, "dMGBASAQdNTEUNGBAdTEUTEUXdNGGUMdFUEdNDEUTdNSAdNSHAQdBUNGdVEUAEPENdMBERAEdRU"),
   (0x168C4, "dNJAEMdLAMdTITUAEPdNSUOT NGOMdNJEEEEdKETdNGGUdMAESIdMBUAEMdLUdKUTdNJAMdNGOMdWUP"),
   (0x168D2, "dNGGUEETdNSOMdNTENdKUOP NKAARAEdNSUNdNDAMdMA NSIEEdYAAdNDAPdSHUEQdSETFONdMBI"),
   (0x168DE, "dMAEMBAdMBANYIdKEUSEUXdMBEUXdKEUMdMBAA PICKETdYUWOQdNJEUXdMIEEdMUAEdSHIQ"),
   (0x168E9, "dKEN LAWeFATIGUEdNGAQdNAQdLIQdPINdPENdTETcPHASE-D MBUOdWAPdNJIdMFONdNJIEEdLIEE"),
   (0x168F7, "dNJEUTdNSHEEdNGGAAMAEdNYAMdWUAENdNGKUNdSHEEdNGKAPdKEUAETMEUNdTEUTdSHEUAEdNJAP"),
   (0x16903, "dSUEdKETdYAEMMAEdKUOMdSAPdMFEUTdNDEUXdMALEERIdMEUTdSEUAEQdYENdNJEUAEM"),
   (0x1690F, "dKEUOT MBUAEdNGKEURIdTUdGHAAdNGKYEEdFEUFEUAETdNDEEdMGBOFUMdLEUAEPdNDONdMONI"),
   (0x1691A, "dMGBEUNdPUUTdMGBIEEdMFOdLUMdNSIEEPdMBAAdKWAETdNYETdTEUAENdSOTdYUWOQdKEUMdRAEM"),
   (0x16928, "dTEEEEdNGKEUAEQdMFEUAEdNSIEETdKEUPdPIPdPEUTAEdNYUEdLETdNGGAAMdMFIEEdNGGWAEN"),
   (0x16934, "dYUOMdPAPdYUOPdNDAMdNTEUMdSUAEdKUNdNGGEUXdNGKIEEdTUOTdMEUNdKUQdNSUMdTEUN"),
   (0x16942, "dMAENJETdNGGAPdLEUMdNGGUOMdNSHUTdNJUEQdGHEUAEdKUdREN OLDdTAEdTOQdNYIdRIIdLEEEE"),
   (0x16950, "dMEEEEdMdSUUdMUdSHIIdSHEUXdKYEEdNUdSHUdNTEEdPEEdNIdSHOQdPUQdMVOPdLOQdREN MUCH"),
   (0x16961, "dTIdNTUUdMBAA SEVENdSAQdFAAcPHASE-E NDAPdTOONdMBEUMdLAPdVOMdLOONdPAAdSOMdRAQ"),
   (0x1696F, "dNSHUOPdNDUNdPUAEdTAMdNGKAdKPEUXdWUOdSEEdNGGEUAETdPAAMdTOOdKUOPdLOMdNSHIEEdNGOP"),
   (0x1697E, "dMAEMdNGKEUXdNGOQdNSHUEdRIMGBAdNJEUXdPEEMdSAAdNGGURAEdMGBAdGHEUXdNGKEUAEM"),
   (0x1698A, "dNJAEMLIdMAPdLOOTdNGGEEEEdNDIQdTAEN NTEUMdSETdPUMdNDAA SOFTNESSdNGGUAESHAE NYAM"),
   (0x16994, "dYIEEdGHEUNdTUAEdYEUAEdPOdTUMAEdKEUAEdSUAENdTEUAEQdVEUAEdWEUXdLAAMdPUdTAAQ"),
   (0x169A2, "dGHAAMAEdNGEUREUTdSHEUAEQdMGBENdMBEEdNZAQdNKOMdGBETdTUMdKUETdYAPdNYI CLEAVER"),
   (0x169AE, "dYITdMFEUQdNDIAQdPIEEQdYUEQdLEUAEMdFUEdGBEUXdNGKUPdKETdMAEdNGKAAMIdGHETdFAdNTUM"),
   (0x169BD, "dPEUTdYEUMdNGGEUAEdNYI BETWEENdNZUQdPOONdMIEEdFUETdNAEdMUAEdGHEUAEdFU IdMVI"),
   (0x169CA, "dPUAQdNGKUMdKUTdPIETdNTAPdYEUAETdNGGUPdPA PEOPLEdFU CALLdFOMdNJEEdAdTOQdOdIdLAQ"),
   (0x169DA, "dPA PLURALdTAAdTAQdNDAA MY HOUSEdSHIQdYEUXdNGUAEdYUAENdYOQ SWIMMINGeCOVERdYUQ"),
   (0x169E5, "dYUNdKEUXdPEUXdNJEE EPOCHdPUEdWUEdFEEdVEEdLUdMIdREUXdRAEdNGUAETdNGAdSHOdSHOQ"),
   (0x169F5, "dFU REMEDYdNAdPIdLOQdKOdMENdMAdMAQdTEUdKIdMONdTENdFAQdGHOMcPHASE-F KAdUdKUdEE"),
   (0x16A07, "dREEdTAEdNYIdLAdRIIdRIEEdMEEEEdTAAdNDAAdNJAEMdMdSUUdSHIIdSIdSEUXdKYEEdKETdNUAE"),
   (0x16A19, "dNUdNJUAEdYOQdSHUdYAdNSHAdPEUXdNTEEdWUEdPEEdRUdNIdREUXdKENdNGKWAENdNGGAdSHO"),
   (0x16A2A, "dPUAEdFOMdWAdLIdLOQdKOdMBENdRENdMAdMOdMBAAdTETdKPAdSAMBAdVUEQ"),
   (0x16A40, "aMRO LETTER TAcNGIcYOcMIMcBAcDAcAcPHIcKHAIcHAOcDAIcCHUcKEAAEcOLcMAEMcNINcPAcOO"),
   (0x16A52, "cOcROcSHIcTHEAcEAcWAcEcKOcLANcLAcHAIcRIcTEK"),
   (0x16A60, "bDIGIT ZEROcONEcTWOcTHREEcFOURcFIVEcSIXcSEVENcEIGHTcNINE"),
   (0x16A6E, "bDANDAbDOUBLE DANDAaTANGSA LETTER OZcOCcOQcOXcAZcACcAQcAXcVZcVCcVQcVXcEZcECcEQ"),
   (0x16A7F, "cEXcIZcICcIQcIXcUZcUCcUQcUXcAWZcAWCcAWQcAWXcUIZcUICcUIQcUIXcFINAL NGcLONG UEX"),
   (0x16A92, "cSHORT UEZdAWXcUECcUEZcUEQcUEXcUIUZcUIUCcUIUQcUIUXcMZcMCcMQcMXcKAcKHAcGAcNGAcSA"),
   (0x16AA5, "cYAcWAcPAcNYAcPHAcBAcMAcNAcHAcLAcHTAcTAcDAcRAcNHAcSHAcCAcTSAcGHAcHTTAcTHAcXAcFA"),
   (0x16ABC, "cDHAcCHAcZA"), (0x16AC0, "bDIGIT ZEROcONEcTWOcTHREEcFOURcFIVEcSIXcSEVENcEIGHTcNINE"),
   (0x16AD0, "aBASSA VAH LETTER ENNIdKAdSEdFAdMBEdYIEdGAHdDHIIdKPAHdJOdHWAHdWAdZOdGBUdDOdCE"),
   (0x16AE0, "dUWUdTOdBAdVUdYEINdPAdWADDAdAdOdOOdUdEEdEdI"),
   (0x16AF0, "cCOMBINING HIGH TONEdLOW TONEdMID TONEdLOW-MID TONEdHIGH-LOW TONEcFULL STOP"),
   (0x16B00, "aPAHAWH HMONG VOWEL KEEBdKEEVdKIBdKIVdKAUBdKAUVdKUBdKUVdKEBdKEVdKAIBdKAIVdKOOB"),
   (0x16B0D, "dKOOVdKAWBdKAWVdKUABdKUAVdKOBdKOVdKIABdKIAVdKABdKAVdKWBdKWVdKAABdKAAV"),
   (0x16B1C, "cCONSONANT VAUdNTSAUdLAUdHAUdNLAUdRAUdNKAUdQHAUdYAUdHLAUdMAUdCHAUdNCHAUdHNAU"),
   (0x16B2A, "dPLHAUdNTHAUdNAUdAUdXAUdCAUcMARK CIM TUBeSOeKESeKHAVeSUAMeHOMeTAUM"),
   (0x16B37, "cSIGN VOS THOMeTSHAB CEEBdCIM CHEEMdVOS THIABeFEEMdXYEEM NTXIVeRHOeTOVeFAIB"),
   (0x16B40, "dVOS SEEVdMEEJ SUABdVOS NRUAdIB YAMdXAUSdCIM TSOV ROG"),
   (0x16B50, "cDIGIT ZEROdONEdTWOdTHREEdFOURdFIVEdSIXdSEVENdEIGHTdNINE"),
   (0x16B5B, "cNUMBER TENSdHUNDREDSdTEN THOUSANDSdMILLIONSdHUNDRED MILLIONSdTEN BILLIONS"),
   (0x16B61, "dTRILLIONS"),
   (0x16B63, "cSIGN VOS LUBdXYOOdHLIdTHIRD-STAGE HLIdZWJ THAJdHNUBdNQIGdXIABdNTUJdAV"),
   (0x16B6D, "dTXHEEJ CEEVdMEEJ TSEEBdTAUdLOSdMUSdCIM HAIS LUS NTOG NTOGeCUAM TSHOOJeTXWV"),
   (0x16B75, "fCHWVePUB DAWBeNRES TOS"),
   (0x16B7D, "cCLAN SIGN TSHEEJeYEEGeLISeLAUJeXYOOJeKOOeHAWJeMUASeTHOJeTSABePHABeKHABeHAMeVAJ"),
   (0x16B8B, "eFAJeYAJeTSWBeKWMeVWJ"),
   (0x16E40, "aMEDEFAIDRIN CAPITAL LETTER MdSdVdWdATIUdZdKPdPdTdGdFdIdKdAdJdEdBdCdUdYUdLdQdHP"),
   (0x16E57, "dNYdXdDdOEdNdRdOdAIdYbSMALL LETTER MdSdVdWdATIUdZdKPdPdTdGdFdIdKdAdJdEdBdCdUdYU"),
   (0x16E74, "dLdQdHPdNYdXdDdOEdNdRdOdAIdYbDIGIT ZEROcONEcTWOcTHREEcFOURcFIVEcSIXcSEVENcEIGHT"),
   (0x16E89, "cNINEbNUMBER TENcELEVENcTWELVEcTHIRTEENcFOURTEENcFIFTEENcSIXTEENcSEVENTEEN"),
   (0x16E92, "cEIGHTEENcNINETEENbDIGIT ONE ALTERNATE FORMcTWO ALTERNATE FORM"),
   (0x16E96, "cTHREE ALTERNATE FORMbCOMMAbFULL STOPbSYMBOL AIVAbEXCLAMATION OH"),
   (0x16F00, "aMIAO LETTER PAcBAcYI PAcPLAcMAcMHAcARCHAIC MAcFAcVAcVFAcTAcDAcYI TTAdTAcTTA"),
   (0x16F0F, "cDDAcNAcNHAcYI NNAcARCHAIC NAcNNAcNNHAcLAcLYAcLHAcLHYAcTLHAcDLHAcTLHYAcDLHYAcKA"),
   (0x16F1F, "cGAcYI KAcQAcQGAcNGAcNGHAcARCHAIC NGAcHAcXAcGHAcGHHAcTSSAcDZZAcNYAcNYHAcTSHA"),
   (0x16F2F, "cDZHAcYI TSHAdDZHAcREFORMED TSHAcSHAcSSAcZHAcZSHAcTSAcDZAcYI TSAcSAcZAcZSAcZZA"),
   (0x16F3E, "cZZSAcARCHAIC ZZAcZZYAcZZSYAcWAcAHcHHAcBRIcSYIcDZYIcTEcTSEcRTE"),
   (0x16F4F, "bSIGN CONSONANT MODIFIER BARbLETTER NASALIZATIONbSIGN ASPIRATION"),
   (0x16F52, "cREFORMED VOICINGdASPIRATIONbVOWEL SIGN AdAAdAHHdANdANGdOdOOdWOdWdEdENdENGdOEY"),
   (0x16F61, "dIdIAdIANdIANGdIOdIEdIIdIUdINGdUdUAdUANdUANGdUUdUEIdUNGdYdYIdAEdAEEdERR"),
   (0x16F76, "dROUNDED ERRdERdROUNDED ERdAIdEIdAUdOUdNdNGdUOGdYUIdOGdOERdVWdIGdEAdIONGdUI"),
   (0x16F8F, "bTONE RIGHTcTOP RIGHTcABOVEcBELOWbLETTER TONE-2cTONE-3cTONE-4cTONE-5cTONE-6"),
   (0x16F98, "cTONE-7cTONE-8cREFORMED TONE-1dTONE-2dTONE-4dTONE-5dTONE-6dTONE-8"),
   (0x16FE0, "aTANGUT ITERATION MARKaNUSHU ITERATION MARKaOLD CHINESE HOOK MARK"),
   (0x16FE3, "cITERATION MARKaKHITAN SMALL SCRIPT FILLER"),
   (0x16FF0, "aVIETNAMESE ALTERNATE READING MARK CAeNHAY"),
   (0x18800, "aTANGUT COMPONENT-001bCOMPONENT-002bCOMPONENT-003bCOMPONENT-004bCOMPONENT-005"),
   (0x18805, "bCOMPONENT-006bCOMPONENT-007bCOMPONENT-008bCOMPONENT-009bCOMPONENT-010"),
   (0x1880A, "bCOMPONENT-011bCOMPONENT-012bCOMPONENT-013bCOMPONENT-014bCOMPONENT-015"),
   (0x1880F, "bCOMPONENT-016bCOMPONENT-017bCOMPONENT-018bCOMPONENT-019bCOMPONENT-020"),
   (0x18814, "bCOMPONENT-021bCOMPONENT-022bCOMPONENT-023bCOMPONENT-024bCOMPONENT-025"),
   (0x18819, "bCOMPONENT-026bCOMPONENT-027bCOMPONENT-028bCOMPONENT-029bCOMPONENT-030"),
   (0x1881E, "bCOMPONENT-031bCOMPONENT-032bCOMPONENT-033bCOMPONENT-034bCOMPONENT-035"),
   (0x18823, "bCOMPONENT-036bCOMPONENT-037bCOMPONENT-038bCOMPONENT-039bCOMPONENT-040"),
   (0x18828, "bCOMPONENT-041bCOMPONENT-042bCOMPONENT-043bCOMPONENT-044bCOMPONENT-045"),
   (0x1882D, "bCOMPONENT-046bCOMPONENT-047bCOMPONENT-048bCOMPONENT-049bCOMPONENT-050"),
   (0x18832, "bCOMPONENT-051bCOMPONENT-052bCOMPONENT-053bCOMPONENT-054bCOMPONENT-055"),
   (0x18837, "bCOMPONENT-056bCOMPONENT-057bCOMPONENT-058bCOMPONENT-059bCOMPONENT-060"),
   (0x1883C, "bCOMPONENT-061bCOMPONENT-062bCOMPONENT-063bCOMPONENT-064bCOMPONENT-065"),
   (0x18841, "bCOMPONENT-066bCOMPONENT-067bCOMPONENT-068bCOMPONENT-069bCOMPONENT-070"),
   (0x18846, "bCOMPONENT-071bCOMPONENT-072bCOMPONENT-073bCOMPONENT-074bCOMPONENT-075"),
   (0x1884B, "bCOMPONENT-076bCOMPONENT-077bCOMPONENT-078bCOMPONENT-079bCOMPONENT-080"),
   (0x18850, "bCOMPONENT-081bCOMPONENT-082bCOMPONENT-083bCOMPONENT-084bCOMPONENT-085"),
   (0x18855, "bCOMPONENT-086bCOMPONENT-087bCOMPONENT-088bCOMPONENT-089bCOMPONENT-090"),
   (0x1885A, "bCOMPONENT-091bCOMPONENT-092bCOMPONENT-093bCOMPONENT-094bCOMPONENT-095"),
   (0x1885F, "bCOMPONENT-096bCOMPONENT-097bCOMPONENT-098bCOMPONENT-099bCOMPONENT-100"),
   (0x18864, "bCOMPONENT-101bCOMPONENT-102bCOMPONENT-103bCOMPONENT-104bCOMPONENT-105"),
   (0x18869, "bCOMPONENT-106bCOMPONENT-107bCOMPONENT-108bCOMPONENT-109bCOMPONENT-110"),
   (0x1886E, "bCOMPONENT-111bCOMPONENT-112bCOMPONENT-113bCOMPONENT-114bCOMPONENT-115"),
   (0x18873, "bCOMPONENT-116bCOMPONENT-117bCOMPONENT-118bCOMPONENT-119bCOMPONENT-120"),
   (0x18878, "bCOMPONENT-121bCOMPONENT-122bCOMPONENT-123bCOMPONENT-124bCOMPONENT-125"),
   (0x1887D, "bCOMPONENT-126bCOMPONENT-127bCOMPONENT-128bCOMPONENT-129bCOMPONENT-130"),
   (0x18882, "bCOMPONENT-131bCOMPONENT-132bCOMPONENT-133bCOMPONENT-134bCOMPONENT-135"),
   (0x18887, "bCOMPONENT-136bCOMPONENT-137bCOMPONENT-138bCOMPONENT-139bCOMPONENT-140"),
   (0x1888C, "bCOMPONENT-141bCOMPONENT-142bCOMPONENT-143bCOMPONENT-144bCOMPONENT-145"),
   (0x18891, "bCOMPONENT-146bCOMPONENT-147bCOMPONENT-148bCOMPONENT-149bCOMPONENT-150"),
   (0x18896, "bCOMPONENT-151bCOMPONENT-152bCOMPONENT-153bCOMPONENT-154bCOMPONENT-155"),
   (0x1889B, "bCOMPONENT-156bCOMPONENT-157bCOMPONENT-158bCOMPONENT-159bCOMPONENT-160"),
   (0x188A0, "bCOMPONENT-161bCOMPONENT-162bCOMPONENT-163bCOMPONENT-164bCOMPONENT-165"),
   (0x188A5, "bCOMPONENT-166bCOMPONENT-167bCOMPONENT-168bCOMPONENT-169bCOMPONENT-170"),
   (0x188AA, "bCOMPONENT-171bCOMPONENT-172bCOMPONENT-173bCOMPONENT-174bCOMPONENT-175"),
   (0x188AF, "bCOMPONENT-176bCOMPONENT-177bCOMPONENT-178bCOMPONENT-179bCOMPONENT-180"),
   (0x188B4, "bCOMPONENT-181bCOMPONENT-182bCOMPONENT-183bCOMPONENT-184bCOMPONENT-185"),
   (0x188B9, "bCOMPONENT-186bCOMPONENT-187bCOMPONENT-188bCOMPONENT-189bCOMPONENT-190"),
   (0x188BE, "bCOMPONENT-191bCOMPONENT-192bCOMPONENT-193bCOMPONENT-194bCOMPONENT-195"),
   (0x188C3, "bCOMPONENT-196bCOMPONENT-197bCOMPONENT-198bCOMPONENT-199bCOMPONENT-200"),
   (0x188C8, "bCOMPONENT-201bCOMPONENT-202bCOMPONENT-203bCOMPONENT-204bCOMPONENT-205"),
   (0x188CD, "bCOMPONENT-206bCOMPONENT-207bCOMPONENT-208bCOMPONENT-209bCOMPONENT-210"),
   (0x188D2, "bCOMPONENT-211bCOMPONENT-212bCOMPONENT-213bCOMPONENT-214bCOMPONENT-215"),
   (0x188D7, "bCOMPONENT-216bCOMPONENT-217bCOMPONENT-218bCOMPONENT-219bCOMPONENT-220"),
   (0x188DC, "bCOMPONENT-221bCOMPONENT-222bCOMPONENT-223bCOMPONENT-224bCOMPONENT-225"),
   (0x188E1, "bCOMPONENT-226bCOMPONENT-227bCOMPONENT-228bCOMPONENT-229bCOMPONENT-230"),
   (0x188E6, "bCOMPONENT-231bCOMPONENT-232bCOMPONENT-233bCOMPONENT-234bCOMPONENT-235"),
   (0x188EB, "bCOMPONENT-236bCOMPONENT-237bCOMPONENT-238bCOMPONENT-239bCOMPONENT-240"),
   (0x188F0, "bCOMPONENT-241bCOMPONENT-242bCOMPONENT-243bCOMPONENT-244bCOMPONENT-245"),
   (0x188F5, "bCOMPONENT-246bCOMPONENT-247bCOMPONENT-248bCOMPONENT-249bCOMPONENT-250"),
   (0x188FA, "bCOMPONENT-251bCOMPONENT-252bCOMPONENT-253bCOMPONENT-254bCOMPONENT-255"),
   (0x188FF, "bCOMPONENT-256bCOMPONENT-257bCOMPONENT-258bCOMPONENT-259bCOMPONENT-260"),
   (0x18904, "bCOMPONENT-261bCOMPONENT-262bCOMPONENT-263bCOMPONENT-264bCOMPONENT-265"),
   (0x18909, "bCOMPONENT-266bCOMPONENT-267bCOMPONENT-268bCOMPONENT-269bCOMPONENT-270"),
   (0x1890E, "bCOMPONENT-271bCOMPONENT-272bCOMPONENT-273bCOMPONENT-274bCOMPONENT-275"),
   (0x18913, "bCOMPONENT-276bCOMPONENT-277bCOMPONENT-278bCOMPONENT-279bCOMPONENT-280"),
   (0x18918, "bCOMPONENT-281bCOMPONENT-282bCOMPONENT-283bCOMPONENT-284bCOMPONENT-285"),
   (0x1891D, "bCOMPONENT-286bCOMPONENT-287bCOMPONENT-288bCOMPONENT-289bCOMPONENT-290"),
   (0x18922, "bCOMPONENT-291bCOMPONENT-292bCOMPONENT-293bCOMPONENT-294bCOMPONENT-295"),
   (0x18927, "bCOMPONENT-296bCOMPONENT-297bCOMPONENT-298bCOMPONENT-299bCOMPONENT-300"),
   (0x1892C, "bCOMPONENT-301bCOMPONENT-302bCOMPONENT-303bCOMPONENT-304bCOMPONENT-305"),
   (0x18931, "bCOMPONENT-306bCOMPONENT-307bCOMPONENT-308bCOMPONENT-309bCOMPONENT-310"),
   (0x18936, "bCOMPONENT-311bCOMPONENT-312bCOMPONENT-313bCOMPONENT-314bCOMPONENT-315"),
   (0x1893B, "bCOMPONENT-316bCOMPONENT-317bCOMPONENT-318bCOMPONENT-319bCOMPONENT-320"),
   (0x18940, "bCOMPONENT-321bCOMPONENT-322bCOMPONENT-323bCOMPONENT-324bCOMPONENT-325"),
   (0x18945, "bCOMPONENT-326bCOMPONENT-327bCOMPONENT-328bCOMPONENT-329bCOMPONENT-330"),
   (0x1894A, "bCOMPONENT-331bCOMPONENT-332bCOMPONENT-333bCOMPONENT-334bCOMPONENT-335"),
   (0x1894F, "bCOMPONENT-336bCOMPONENT-337bCOMPONENT-338bCOMPONENT-339bCOMPONENT-340"),
   (0x18954, "bCOMPONENT-341bCOMPONENT-342bCOMPONENT-343bCOMPONENT-344bCOMPONENT-345"),
   (0x18959, "bCOMPONENT-346bCOMPONENT-347bCOMPONENT-348bCOMPONENT-349bCOMPONENT-350"),
   (0x1895E, "bCOMPONENT-351bCOMPONENT-352bCOMPONENT-353bCOMPONENT-354bCOMPONENT-355"),
   (0x18963, "bCOMPONENT-356bCOMPONENT-357bCOMPONENT-358bCOMPONENT-359bCOMPONENT-360"),
   (0x18968, "bCOMPONENT-361bCOMPONENT-362bCOMPONENT-363bCOMPONENT-364bCOMPONENT-365"),
   (0x1896D, "bCOMPONENT-366bCOMPONENT-367bCOMPONENT-368bCOMPONENT-369bCOMPONENT-370"),
   (0x18972, "bCOMPONENT-371bCOMPONENT-372bCOMPONENT-373bCOMPONENT-374bCOMPONENT-375"),
   (0x18977, "bCOMPONENT-376bCOMPONENT-377bCOMPONENT-378bCOMPONENT-379bCOMPONENT-380"),
   (0x1897C, "bCOMPONENT-381bCOMPONENT-382bCOMPONENT-383bCOMPONENT-384bCOMPONENT-385"),
   (0x18981, "bCOMPONENT-386bCOMPONENT-387bCOMPONENT-388bCOMPONENT-389bCOMPONENT-390"),
   (0x18986, "bCOMPONENT-391bCOMPONENT-392bCOMPONENT-393bCOMPONENT-394bCOMPONENT-395"),
   (0x1898B, "bCOMPONENT-396bCOMPONENT-397bCOMPONENT-398bCOMPONENT-399bCOMPONENT-400"),
   (0x18990, "bCOMPONENT-401bCOMPONENT-402bCOMPONENT-403bCOMPONENT-404bCOMPONENT-405"),
   (0x18995, "bCOMPONENT-406bCOMPONENT-407bCOMPONENT-408bCOMPONENT-409bCOMPONENT-410"),
   (0x1899A, "bCOMPONENT-411bCOMPONENT-412bCOMPONENT-413bCOMPONENT-414bCOMPONENT-415"),
   (0x1899F, "bCOMPONENT-416bCOMPONENT-417bCOMPONENT-418bCOMPONENT-419bCOMPONENT-420"),
   (0x189A4, "bCOMPONENT-421bCOMPONENT-422bCOMPONENT-423bCOMPONENT-424bCOMPONENT-425"),
   (0x189A9, "bCOMPONENT-426bCOMPONENT-427bCOMPONENT-428bCOMPONENT-429bCOMPONENT-430"),
   (0x189AE, "bCOMPONENT-431bCOMPONENT-432bCOMPONENT-433bCOMPONENT-434bCOMPONENT-435"),
   (0x189B3, "bCOMPONENT-436bCOMPONENT-437bCOMPONENT-438bCOMPONENT-439bCOMPONENT-440"),
   (0x189B8, "bCOMPONENT-441bCOMPONENT-442bCOMPONENT-443bCOMPONENT-444bCOMPONENT-445"),
   (0x189BD, "bCOMPONENT-446bCOMPONENT-447bCOMPONENT-448bCOMPONENT-449bCOMPONENT-450"),
   (0x189C2, "bCOMPONENT-451bCOMPONENT-452bCOMPONENT-453bCOMPONENT-454bCOMPONENT-455"),
   (0x189C7, "bCOMPONENT-456bCOMPONENT-457bCOMPONENT-458bCOMPONENT-459bCOMPONENT-460"),
   (0x189CC, "bCOMPONENT-461bCOMPONENT-462bCOMPONENT-463bCOMPONENT-464bCOMPONENT-465"),
   (0x189D1, "bCOMPONENT-466bCOMPONENT-467bCOMPONENT-468bCOMPONENT-469bCOMPONENT-470"),
   (0x189D6, "bCOMPONENT-471bCOMPONENT-472bCOMPONENT-473bCOMPONENT-474bCOMPONENT-475"),
   (0x189DB, "bCOMPONENT-476bCOMPONENT-477bCOMPONENT-478bCOMPONENT-479bCOMPONENT-480"),
   (0x189E0, "bCOMPONENT-481bCOMPONENT-482bCOMPONENT-483bCOMPONENT-484bCOMPONENT-485"),
   (0x189E5, "bCOMPONENT-486bCOMPONENT-487bCOMPONENT-488bCOMPONENT-489bCOMPONENT-490"),
   (0x189EA, "bCOMPONENT-491bCOMPONENT-492bCOMPONENT-493bCOMPONENT-494bCOMPONENT-495"),
   (0x189EF, "bCOMPONENT-496bCOMPONENT-497bCOMPONENT-498bCOMPONENT-499bCOMPONENT-500"),
   (0x189F4, "bCOMPONENT-501bCOMPONENT-502bCOMPONENT-503bCOMPONENT-504bCOMPONENT-505"),
   (0x189F9, "bCOMPONENT-506bCOMPONENT-507bCOMPONENT-508bCOMPONENT-509bCOMPONENT-510"),
   (0x189FE, "bCOMPONENT-511bCOMPONENT-512bCOMPONENT-513bCOMPONENT-514bCOMPONENT-515"),
   (0x18A03, "bCOMPONENT-516bCOMPONENT-517bCOMPONENT-518bCOMPONENT-519bCOMPONENT-520"),
   (0x18A08, "bCOMPONENT-521bCOMPONENT-522bCOMPONENT-523bCOMPONENT-524bCOMPONENT-525"),
   (0x18A0D, "bCOMPONENT-526bCOMPONENT-527bCOMPONENT-528bCOMPONENT-529bCOMPONENT-530"),
   (0x18A12, "bCOMPONENT-531bCOMPONENT-532bCOMPONENT-533bCOMPONENT-534bCOMPONENT-535"),
   (0x18A17, "bCOMPONENT-536bCOMPONENT-537bCOMPONENT-538bCOMPONENT-539bCOMPONENT-540"),
   (0x18A1C, "bCOMPONENT-541bCOMPONENT-542bCOMPONENT-543bCOMPONENT-544bCOMPONENT-545"),
   (0x18A21, "bCOMPONENT-546bCOMPONENT-547bCOMPONENT-548bCOMPONENT-549bCOMPONENT-550"),
   (0x18A26, "bCOMPONENT-551bCOMPONENT-552bCOMPONENT-553bCOMPONENT-554bCOMPONENT-555"),
   (0x18A2B, "bCOMPONENT-556bCOMPONENT-557bCOMPONENT-558bCOMPONENT-559bCOMPONENT-560"),
   (0x18A30, "bCOMPONENT-561bCOMPONENT-562bCOMPONENT-563bCOMPONENT-564bCOMPONENT-565"),
   (0x18A35, "bCOMPONENT-566bCOMPONENT-567bCOMPONENT-568bCOMPONENT-569bCOMPONENT-570"),
   (0x18A3A, "bCOMPONENT-571bCOMPONENT-572bCOMPONENT-573bCOMPONENT-574bCOMPONENT-575"),
   (0x18A3F, "bCOMPONENT-576bCOMPONENT-577bCOMPONENT-578bCOMPONENT-579bCOMPONENT-580"),
   (0x18A44, "bCOMPONENT-581bCOMPONENT-582bCOMPONENT-583bCOMPONENT-584bCOMPONENT-585"),
   (0x18A49, "bCOMPONENT-586bCOMPONENT-587bCOMPONENT-588bCOMPONENT-589bCOMPONENT-590"),
   (0x18A4E, "bCOMPONENT-591bCOMPONENT-592bCOMPONENT-593bCOMPONENT-594bCOMPONENT-595"),
   (0x18A53, "bCOMPONENT-596bCOMPONENT-597bCOMPONENT-598bCOMPONENT-599bCOMPONENT-600"),
   (0x18A58, "bCOMPONENT-601bCOMPONENT-602bCOMPONENT-603bCOMPONENT-604bCOMPONENT-605"),
   (0x18A5D, "bCOMPONENT-606bCOMPONENT-607bCOMPONENT-608bCOMPONENT-609bCOMPONENT-610"),
   (0x18A62, "bCOMPONENT-611bCOMPONENT-612bCOMPONENT-613bCOMPONENT-614bCOMPONENT-615"),
   (0x18A67, "bCOMPONENT-616bCOMPONENT-617bCOMPONENT-618bCOMPONENT-619bCOMPONENT-620"),
   (0x18A6C, "bCOMPONENT-621bCOMPONENT-622bCOMPONENT-623bCOMPONENT-624bCOMPONENT-625"),
   (0x18A71, "bCOMPONENT-626bCOMPONENT-627bCOMPONENT-628bCOMPONENT-629bCOMPONENT-630"),
   (0x18A76, "bCOMPONENT-631bCOMPONENT-632bCOMPONENT-633bCOMPONENT-634bCOMPONENT-635"),
   (0x18A7B, "bCOMPONENT-636bCOMPONENT-637bCOMPONENT-638bCOMPONENT-639bCOMPONENT-640"),
   (0x18A80, "bCOMPONENT-641bCOMPONENT-642bCOMPONENT-643bCOMPONENT-644bCOMPONENT-645"),
   (0x18A85, "bCOMPONENT-646bCOMPONENT-647bCOMPONENT-648bCOMPONENT-649bCOMPONENT-650"),
   (0x18A8A, "bCOMPONENT-651bCOMPONENT-652bCOMPONENT-653bCOMPONENT-654bCOMPONENT-655"),
   (0x18A8F, "bCOMPONENT-656bCOMPONENT-657bCOMPONENT-658bCOMPONENT-659bCOMPONENT-660"),
   (0x18A94, "bCOMPONENT-661bCOMPONENT-662bCOMPONENT-663bCOMPONENT-664bCOMPONENT-665"),
   (0x18A99, "bCOMPONENT-666bCOMPONENT-667bCOMPONENT-668bCOMPONENT-669bCOMPONENT-670"),
   (0x18A9E, "bCOMPONENT-671bCOMPONENT-672bCOMPONENT-673bCOMPONENT-674bCOMPONENT-675"),
   (0x18AA3, "bCOMPONENT-676bCOMPONENT-677bCOMPONENT-678bCOMPONENT-679bCOMPONENT-680"),
   (0x18AA8, "bCOMPONENT-681bCOMPONENT-682bCOMPONENT-683bCOMPONENT-684bCOMPONENT-685"),
   (0x18AAD, "bCOMPONENT-686bCOMPONENT-687bCOMPONENT-688bCOMPONENT-689bCOMPONENT-690"),
   (0x18AB2, "bCOMPONENT-691bCOMPONENT-692bCOMPONENT-693bCOMPONENT-694bCOMPONENT-695"),
   (0x18AB7, "bCOMPONENT-696bCOMPONENT-697bCOMPONENT-698bCOMPONENT-699bCOMPONENT-700"),
   (0x18ABC, "bCOMPONENT-701bCOMPONENT-702bCOMPONENT-703bCOMPONENT-704bCOMPONENT-705"),
   (0x18AC1, "bCOMPONENT-706bCOMPONENT-707bCOMPONENT-708bCOMPONENT-709bCOMPONENT-710"),
   (0x18AC6, "bCOMPONENT-711bCOMPONENT-712bCOMPONENT-713bCOMPONENT-714bCOMPONENT-715"),
   (0x18ACB, "bCOMPONENT-716bCOMPONENT-717bCOMPONENT-718bCOMPONENT-719bCOMPONENT-720"),
   (0x18AD0, "bCOMPONENT-721bCOMPONENT-722bCOMPONENT-723bCOMPONENT-724bCOMPONENT-725"),
   (0x18AD5, "bCOMPONENT-726bCOMPONENT-727bCOMPONENT-728bCOMPONENT-729bCOMPONENT-730"),
   (0x18ADA, "bCOMPONENT-731bCOMPONENT-732bCOMPONENT-733bCOMPONENT-734bCOMPONENT-735"),
   (0x18ADF, "bCOMPONENT-736bCOMPONENT-737bCOMPONENT-738bCOMPONENT-739bCOMPONENT-740"),
   (0x18AE4, "bCOMPONENT-741bCOMPONENT-742bCOMPONENT-743bCOMPONENT-744bCOMPONENT-745"),
   (0x18AE9, "bCOMPONENT-746bCOMPONENT-747bCOMPONENT-748bCOMPONENT-749bCOMPONENT-750"),
   (0x18AEE, "bCOMPONENT-751bCOMPONENT-752bCOMPONENT-753bCOMPONENT-754bCOMPONENT-755"),
   (0x18AF3, "bCOMPONENT-756bCOMPONENT-757bCOMPONENT-758bCOMPONENT-759bCOMPONENT-760"),
   (0x18AF8, "bCOMPONENT-761bCOMPONENT-762bCOMPONENT-763bCOMPONENT-764bCOMPONENT-765"),
   (0x18AFD, "bCOMPONENT-766bCOMPONENT-767bCOMPONENT-768"),
   (0x1AFF0, "aKATAKANA LETTER MINNAN TONE-2dTONE-3dTONE-4dTONE-5"),
   (0x1AFF5, "dTONE-7dTONE-8dNASALIZED TONE-1eTONE-2eTONE-3eTONE-4eTONE-5"),
   (0x1AFFD, "eTONE-7eTONE-8"),
   (0x1B000, "cARCHAIC EaHIRAGANA LETTER ARCHAIC YEaHENTAIGANA LETTER A-1cA-2cA-3cA-WOcI-1"),
   (0x1B007, "cI-2cI-3cI-4cU-1cU-2cU-3cU-4cU-5cE-2cE-3cE-4cE-5cE-6cO-1cO-2cO-3cKA-1cKA-2cKA-3"),
   (0x1B01A, "cKA-4cKA-5cKA-6cKA-7cKA-8cKA-9cKA-10cKA-11cKA-KEcKI-1cKI-2cKI-3cKI-4cKI-5cKI-6"),
   (0x1B029, "cKI-7cKI-8cKU-1cKU-2cKU-3cKU-4cKU-5cKU-6cKU-7cKE-1cKE-2cKE-3cKE-4cKE-5cKE-6"),
   (0x1B038, "cKO-1cKO-2cKO-3cKO-KIcSA-1cSA-2cSA-3cSA-4cSA-5cSA-6cSA-7cSA-8cSI-1cSI-2cSI-3"),
   (0x1B047, "cSI-4cSI-5cSI-6cSU-1cSU-2cSU-3cSU-4cSU-5cSU-6cSU-7cSU-8cSE-1cSE-2cSE-3cSE-4"),
   (0x1B056, "cSE-5cSO-1cSO-2cSO-3cSO-4cSO-5cSO-6cSO-7cTA-1cTA-2cTA-3cTA-4cTI-1cTI-2cTI-3"),
   (0x1B065, "cTI-4cTI-5cTI-6cTI-7cTU-1cTU-2cTU-3cTU-4cTU-TOcTE-1cTE-2cTE-3cTE-4cTE-5cTE-6"),
   (0x1B074, "cTE-7cTE-8cTE-9cTO-1cTO-2cTO-3cTO-4cTO-5cTO-6cTO-RAcNA-1cNA-2cNA-3cNA-4cNA-5"),
   (0x1B083, "cNA-6cNA-7cNA-8cNA-9cNI-1cNI-2cNI-3cNI-4cNI-5cNI-6cNI-7cNI-TEcNU-1cNU-2cNU-3"),
   (0x1B092, "cNE-1cNE-2cNE-3cNE-4cNE-5cNE-6cNE-KOcNO-1cNO-2cNO-3cNO-4cNO-5cHA-1cHA-2cHA-3"),
   (0x1B0A1, "cHA-4cHA-5cHA-6cHA-7cHA-8cHA-9cHA-10cHA-11cHI-1cHI-2cHI-3cHI-4cHI-5cHI-6cHI-7"),
   (0x1B0B0, "cHU-1cHU-2cHU-3cHE-1cHE-2cHE-3cHE-4cHE-5cHE-6cHE-7cHO-1cHO-2cHO-3cHO-4cHO-5"),
   (0x1B0BF, "cHO-6cHO-7cHO-8cMA-1cMA-2cMA-3cMA-4cMA-5cMA-6cMA-7cMI-1cMI-2cMI-3cMI-4cMI-5"),
   (0x1B0CE, "cMI-6cMI-7cMU-1cMU-2cMU-3cMU-4cME-1cME-2cME-MAcMO-1cMO-2cMO-3cMO-4cMO-5cMO-6"),
   (0x1B0DD, "cYA-1cYA-2cYA-3cYA-4cYA-5cYA-YOcYU-1cYU-2cYU-3cYU-4cYO-1cYO-2cYO-3cYO-4cYO-5"),
   (0x1B0EC, "cYO-6cRA-1cRA-2cRA-3cRA-4cRI-1cRI-2cRI-3cRI-4cRI-5cRI-6cRI-7cRU-1cRU-2cRU-3"),
   (0x1B0FB, "cRU-4cRU-5cRU-6cRE-1cRE-2cRE-3cRE-4cRO-1cRO-2cRO-3cRO-4cRO-5cRO-6cWA-1cWA-2"),
   (0x1B10A, "cWA-3cWA-4cWA-5cWI-1cWI-2cWI-3cWI-4cWI-5cWE-1cWE-2cWE-3cWE-4cWO-1cWO-2cWO-3"),
   (0x1B119, "cWO-4cWO-5cWO-6cWO-7cN-MU-MO-1cN-MU-MO-2aHIRAGANA LETTER ARCHAIC WU"),
   (0x1B120, "aKATAKANA LETTER ARCHAIC YIdYEdWU"), (0x1B150, "aHIRAGANA LETTER SMALL WIdWEdWO"),
   (0x1B164, "aKATAKANA LETTER SMALL WIdWEdWOdN"),
   (0x1BC00, "aDUPLOYAN LETTER HcXcPcTcFcKcLcBcDcVcGcRcP NcD ScF NcK McR ScTHcSLOAN DHcDHcKK"),
   (0x1BC15, "cSLOAN JcHLcLHcRHcMcNcJcScM NcN McJ McS JcM WITH DOTcN WITH DOTcJ WITH DOT"),
   (0x1BC24, "eDOTS INSIDE AND ABOVEcS WITH DOTfBELOWcM ScN ScJ ScS ScM N ScN M ScJ M ScS J S"),
   (0x1BC2F, "cJ S WITH DOTdNeScS TeRdPeRcT SdR ScWcWHcW RcS NdMcK R ScG R ScS KeRcAcSLOAN OW"),
   (0x1BC43, "cOAcOcAOUcIcEcIEcSHORT IcUIcEEcSLOAN EHcROMANIAN IcSLOAN EEcLONG IcYEcUcEUcXW"),
   (0x1BC54, "cU NcLONG UcROMANIAN UcUHcSLOAN UcOOHcOWcOUcWAcWOcWIcWEIcWOWcNASAL UdOdIdA"),
   (0x1BC65, "cPERNIN ANdAMcSLOAN ENdANdONcVOCALIC M"),
   (0x1BC70, "bAFFIX LEFT HORIZONTAL SECANTcMID HORIZONTAL SECANTcRIGHT HORIZONTAL SECANT"),
   (0x1BC73, "cLOW VERTICAL SECANTcMID VERTICAL SECANTcHIGH VERTICAL SECANTcATTACHED SECANT"),
   (0x1BC77, "dLEFT-TO-RIGHT SECANTdTANGENTdTAILdE HOOKdI HOOKdTANGENT HOOK"),
   (0x1BC80, "cHIGH ACUTEdTIGHT ACUTEdGRAVEdLONG GRAVEdDOTdCIRCLEdLINEdWAVEdVERTICAL"),
   (0x1BC90, "cLOW ACUTEdTIGHT ACUTEdGRAVEdLONG GRAVEdDOTdCIRCLEdLINEdWAVEdVERTICALdARROW"),
   (0x1BC9C, "bSIGN O WITH CROSSbTHICK LETTER SELECTORbDOUBLE MARK"),
   (0x1BC9F, "bPUNCTUATION CHINOOK FULL STOPaSHORTHAND FORMAT LETTER OVERLAP"),
   (0x1BCA1, "cCONTINUING OVERLAPcDOWN STEPcUP STEP"),
   (0x1CF00, "aZNAMENNY COMBINING MARK GORAZDO NIZKO S KRYZHEM ON LEFT"),
   (0x1CF01, "dNIZKO S KRYZHEM ON LEFTdTSATA ON LEFTdGORAZDO NIZKO ON LEFTdNIZKO ON LEFT"),
   (0x1CF05, "dSREDNE ON LEFTdMALO POVYSHE ON LEFTdPOVYSHE ON LEFTdVYSOKO ON LEFT"),
   (0x1CF09, "dMALO POVYSHE S KHOKHLOM ON LEFTdPOVYSHE S KHOKHLOM ON LEFT"),
   (0x1CF0B, "dVYSOKO S KHOKHLOM ON LEFTdGORAZDO NIZKO S KRYZHEM ON RIGHT"),
   (0x1CF0D, "dNIZKO S KRYZHEM ON RIGHTdTSATA ON RIGHTdGORAZDO NIZKO ON RIGHTdNIZKO ON RIGHT"),
   (0x1CF11, "dSREDNE ON RIGHTdMALO POVYSHE ON RIGHTdPOVYSHE ON RIGHTdVYSOKO ON RIGHT"),
   (0x1CF15, "dMALO POVYSHE S KHOKHLOM ON RIGHTdPOVYSHE S KHOKHLOM ON RIGHT"),
   (0x1CF17, "dVYSOKO S KHOKHLOM ON RIGHTdTSATA S KRYZHEMdMALO POVYSHE S KRYZHEM"),
   (0x1CF1A, "dSTRANNO MALO POVYSHEdPOVYSHE S KRYZHEMeSTRANNOdVYSOKO S KRYZHEM"),
   (0x1CF1E, "dMALO POVYSHE STRANNOdGORAZDO VYSOKOdZELOdONdRAVNOdTIKHAYAdBORZAYAdUDARKA"),
   (0x1CF26, "dPODVERTKAdLOMKAdKUPNAYAdKACHKAdZEVOKdSKOBAdRAZSEKAdKRYZH ON LEFT"),
   (0x1CF30, "cTONAL RANGE MARK MRACHNOfSVETLOfTRESVETLOcMARK ZADERZHKAdDEMESTVENNY ZADERZHKA"),
   (0x1CF35, "dOTSECHKAdPODCHASHIEeWITH VERTICAL STROKEdCHASHKAePOLNAYAdOBLACHKO"),
   (0x1CF3B, "dSOROCHYA NOZHKAdTOCHKAdDVOETOCHIEcATTACHING VERTICAL OMETcMARK CURVED OMET"),
   (0x1CF40, "dKRYZHcLOWER TONAL RANGE INDICATORbPRIZNAK MODIFIER LEVEL-2dLEVEL-3"),
   (0x1CF44, "dDIRECTION FLIPdKRYZHdROG"),
   (0x1CF50, "bNEUME KRYUKdTIKHYcPARAKLITcDVA V CHELNUcKLYUCHcZANOZHEKcSTOPITSAdS OCHKOM"),
   (0x1CF58, "cPEREVODKAdNEPOSTOYANNAYAcSTOPITSA WITH SOROCHYA NOZHKAcCHELYUSTKAcPALKA"),
   (0x1CF5D, "cZAPYATAYAcGOLUBCHIK BORZYdTIKHYdMRACHNYdSVETLYdTRESVETLYcVRAKHIYA PROSTAYA"),
   (0x1CF64, "dMRACHNAYAdSVETLAYAdTRESVETLAYAdKLYUCHEVAYA PROSTAYAeMRACHNAYAeSVETLAYA"),
   (0x1CF6A, "eTRESVETLAYAcDOUBLE ZAPYATAYAcREVERSED CHELYUSTKAcDERBITSAcKHAMILOcCHASHKA"),
   (0x1CF70, "cPODCHASHIEcSKAMEYTSA MRACHNAYAdSVETLAYAdTRESVETLAYAdTIKHAYAcDEMESTVENNY KLYUCH"),
   (0x1CF76, "cSKAMEYTSA KLYUCHEVAYA SVETLAYAdKLYUCHENEPOSTOYANNAYAdKLYUCHEVAYA TIKHAYA"),
   (0x1CF79, "dDVOECHELNAYA PROSTAYAeSVETLAYAeNEPOSTOYANNAYAeKLYUCHEVAYAcSLOZHITIEdS ZAPYATOY"),
   (0x1CF7F, "dZAKRYTOEdS KRYZHEMcKRYZHcROGcFITAcKOBYLAcZMEYTSAcSTATYAdS ZAPYATOYeKRYZHEM"),
   (0x1CF89, "eZAPYATOY I KRYZHEMeKRYZHEM I ZAPYATOYdZAKRYTAYAeS ZAPYATOYdS ROGOM"),
   (0x1CF8E, "eDVUMYA ZAPYATYMIeZAPYATOY I PODCHASHIEMcPOLKULIZMYcSTATYA NEPOSTOYANNAYA"),
   (0x1CF92, "cSTRELA PROSTAYAdMRACHNOTIKHAYAdKRYZHEVAYAdPOLUPOVODNAYAdPOVODNAYA"),
   (0x1CF97, "dNEPOSTOYANNAYAdKLYUCHEPOVODNAYAdKLYUCHENEPOSTOYANNAYAdTIKHAYA PUTNAYA"),
   (0x1CF9B, "dDVOECHELNAYAdDVOECHELNOKRYZHEVAYAdDVOECHELNOPOVODNAYAdDVOECHELNAYA KLYUCHEVAYA"),
   (0x1CF9F, "dDVOECHELNOPOVODNAYA KLYUCHEVAYAdGROMNAYA WITH SINGLE ZAPYATAYA"),
   (0x1CFA1, "dGROMOPOVODNAYA WITH SINGLE ZAPYATAYAdGROMNAYAdGROMOPOVODNAYA"),
   (0x1CFA4, "eWITH DOUBLE ZAPYATAYAdGROMOKRYZHEVAYAePOVODNAYAcMECHIKdPOVODNYdKLYUCHEVOY"),
   (0x1CFAA, "dKLYUCHEPOVODNYdKLYUCHENEPOSTOYANNYcSTRELA TRYASOGLASNAYAdTRYASOPOVODNAYA"),
   (0x1CFAE, "dTRYASOSTRELNAYAcOSOKAdSVETLAYAdTRESVETLAYAdKRYUKOVAYA SVETLAYA"),
   (0x1CFB3, "dKLYUCHEVAYA SVETLAYAeNEPOSTOYANNAYAcSTRELA KRYUKOVAYAePOVODNAYA"),
   (0x1CFB7, "eGROMNAYA WITH SINGLE ZAPYATAYAeGROMOPOVODNAYA WITH SINGLE ZAPYATAYAeGROMNAYA"),
   (0x1CFBA, "eGROMOPOVODNAYAfWITH DOUBLE ZAPYATAYAeGROMOKRYZHEVAYAfPOVODNAYAeTRYASKAcKUFISMA"),
   (0x1CFC0, "cOBLAKOcDUDAcNEMKAcPAUK")]

end Scriptlet.Text.CharacterNames
