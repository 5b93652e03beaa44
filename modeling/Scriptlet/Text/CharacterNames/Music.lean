/-
# Names of characters from U+1D000 to U+1DF1E

The signs of music, of writing in gestures and of mathematics.
-/

namespace Scriptlet.Text.CharacterNames

def music : List (Nat × String) :=
  [(0x1D000, "aBYZANTINE MUSICAL SYMBOL PSILIdDASEIAdPERISPOMENIdOXEIA EKFONITIKONeDIPLI"),
   (0x1D005, "dVAREIA EKFONITIKONeDIPLIdKATHISTIdSYRMATIKIdPARAKLITIKIdYPOKRISISeDIPLI"),
   (0x1D00C, "dKREMASTIdAPESO EKFONITIKONdEXO EKFONITIKONdTELEIAdKENTIMATAdAPOSTROFOSeDIPLI"),
   (0x1D013, "dSYNEVMAdTHITAdOLIGON ARCHAIONdGORGON ARCHAIONdPSILONdCHAMILONdVATHY"),
   (0x1D01A, "dISON ARCHAIONdKENTIMA ARCHAIONdKENTIMATA ARCHAIONdSAXIMATAdPARICHON"),
   (0x1D01F, "dSTAVROS APODEXIAdOXEIAI ARCHAIONdVAREIAI ARCHAIONdAPODERMA ARCHAIONdAPOTHEMA"),
   (0x1D024, "dKLASMAdREVMAdPIASMA ARCHAIONdTINAGMAdANATRICHISMAdSEISMAdSYNAGMA ARCHAION"),
   (0x1D02B, "eMETA STAVROUdOYRANISMA ARCHAIONdTHEMAdLEMOIdDYOdTRIAdTESSERAdKRATIMATA"),
   (0x1D033, "dAPESO EXO NEOdFTHORA ARCHAIONdIMIFTHORAdTROMIKON ARCHAIONdKATAVA TROMIKON"),
   (0x1D038, "dPELASTONdPSIFISTONdKONTEVMAdCHOREVMA ARCHAIONdRAPISMAdPARAKALESMA ARCHAION"),
   (0x1D03E, "dPARAKLITIKI ARCHAIONdICHADINdNANAdPETASMAdKONTEVMA ALLOdTROMIKON ALLO"),
   (0x1D044, "dSTRAGGISMATAdGRONTHISMATAdISON NEOdOLIGON NEOdOXEIA NEOdPETASTIdKOUFISMA"),
   (0x1D04B, "dPETASTOKOUFISMAdKRATIMOKOUFISMAdPELASTON NEOdKENTIMATA NEO ANOdKENTIMA NEO ANO"),
   (0x1D050, "dYPSILIdAPOSTROFOS NEOdAPOSTROFOI SYNDESMOS NEOdYPORROIdKRATIMOYPORROONdELAFRON"),
   (0x1D056, "dCHAMILIdMIKRON ISONdVAREIA NEOdPIASMA NEOdPSIFISTON NEOdOMALONdANTIKENOMA"),
   (0x1D05D, "dLYGISMAdPARAKLITIKI NEOdPARAKALESMA NEOdETERON PARAKALESMAdKYLISMA"),
   (0x1D062, "dANTIKENOKYLISMAdTROMIKON NEOdEKSTREPTONdSYNAGMA NEOdSYRMAdCHOREVMA NEO"),
   (0x1D068, "dEPEGERMAdSEISMA NEOdXIRON KLASMAdTROMIKOPSIFISTONdPSIFISTOLYGISMA"),
   (0x1D06D, "dTROMIKOLYGISMAdTROMIKOPARAKALESMAdPSIFISTOPARAKALESMAdTROMIKOSYNAGMA"),
   (0x1D071, "dPSIFISTOSYNAGMAdGORGOSYNTHETONdARGOSYNTHETONdETERON ARGOSYNTHETON"),
   (0x1D075, "dOYRANISMA NEOdTHEMATISMOS ESOeEXOdTHEMA APLOUNdTHES KAI APOTHESdKATAVASMA"),
   (0x1D07B, "dENDOFONONdYFEN KATOeANOdSTAVROSdKLASMA ANOdDIPLI ARCHAIONdKRATIMA ARCHAION"),
   (0x1D082, "eALLOeNEOdAPODERMA NEOdAPLIdDIPLIdTRIPLIdTETRAPLIdKORONISdLEIMMA ENOS CHRONOU"),
   (0x1D08B, "eDYO CHRONONeTRION CHRONONeTESSARON CHRONONeIMISEOS CHRONOUdGORGON NEO ANO"),
   (0x1D090, "ePARESTIGMENON ARISTERAfDEXIAdDIGORGONePARESTIGMENON ARISTERA KATOgANOfDEXIA"),
   (0x1D096, "dTRIGORGONdARGONdIMIDIARGONdDIARGONdAGOGI POLI ARGIeARGOTERIeARGIeMETRIAeMESI"),
   (0x1D09F, "eGORGIeGORGOTERIePOLI GORGIdMARTYRIA PROTOS ICHOSeALLI PROTOS ICHOS"),
   (0x1D0A4, "eDEYTEROS ICHOSeALLI DEYTEROS ICHOSeTRITOS ICHOSeTRIFONIASeTETARTOS ICHOS"),
   (0x1D0A9, "fLEGETOS ICHOSeLEGETOS ICHOSePLAGIOS ICHOSdISAKIA TELOUS ICHIMATOS"),
   (0x1D0AD, "dAPOSTROFOI TELOUS ICHIMATOSdFANEROSIS TETRAFONIASeMONOFONIASeDIFONIAS"),
   (0x1D0B1, "dMARTYRIA VARYS ICHOSePROTOVARYS ICHOSePLAGIOS TETARTOS ICHOS"),
   (0x1D0B4, "dGORTHMIKON N APLOUNfDIPLOUNdENARXIS KAI FTHORA VOUdIMIFONONdIMIFTHORON"),
   (0x1D0B9, "dFTHORA ARCHAION DEYTEROU ICHOUeDIATONIKI PAfNANAeNAOS ICHOSeDIATONIKI DI"),
   (0x1D0BE, "eSKLIRON DIATONON DIeDIATONIKI KEfZOfNI KATOgANOeMALAKON CHROMA DIFONIAS"),
   (0x1D0C4, "gMONOFONIASdFHTORA SKLIRON CHROMA VASISdFTHORA SKLIRON CHROMA SYNAFIeNENANO"),
   (0x1D0C8, "dCHROA ZYGOSeKLITONeSPATHIdFTHORA I YFESIS TETARTIMORIONeENARMONIOS ANTIFONIA"),
   (0x1D0CD, "dYFESIS TRITIMORIONdDIESIS TRITIMORIONeTETARTIMORIONeAPLI DYO DODEKATA"),
   (0x1D0D1, "eMONOGRAMMOS TESSERA DODEKATAeDIGRAMMOS EX DODEKATAeTRIGRAMMOS OKTO DODEKATA"),
   (0x1D0D4, "dYFESIS APLI DYO DODEKATAeMONOGRAMMOS TESSERA DODEKATAeDIGRAMMOS EX DODEKATA"),
   (0x1D0D7, "eTRIGRAMMOS OKTO DODEKATAdGENIKI DIESISeYFESISdDIASTOLI APLI MIKRIfMEGALIeDIPLI"),
   (0x1D0DD, "eTHESEOSdSIMANSIS THESEOSfDISIMOUfTRISIMOUfTETRASIMOUeARSEOSfDISIMOUfTRISIMOU"),
   (0x1D0E5, "fTETRASIMOUdDIGRAMMA GGdDIFTOGGOS OUdSTIGMAdARKTIKO PAeVOUeGAeDIeKEeZOeNI"),
   (0x1D0F0, "dKENTIMATA NEO MESOdKENTIMA NEO MESOdKENTIMATA NEO KATOdKENTIMA NEO KATO"),
   (0x1D0F4, "dKLASMA KATOdGORGON NEO KATO"),
   (0x1D100, "aMUSICAL SYMBOL SINGLE BARLINEcDOUBLE BARLINEcFINAL BARLINE"),
   (0x1D103, "cREVERSE FINAL BARLINEcDASHED BARLINEcSHORT BARLINEcLEFT REPEAT SIGN"),
   (0x1D107, "cRIGHT REPEAT SIGNcREPEAT DOTScDAL SEGNOcDA CAPOcSEGNOcCODAcREPEATED FIGURE-1"),
   (0x1D10E, "dFIGURE-2dFIGURE-3cFERMATAdBELOWcBREATH MARKcCAESURAcBRACEcBRACKET"),
   (0x1D116, "cONE-LINE STAFFcTWO-LINE STAFFcTHREE-LINE STAFFcFOUR-LINE STAFFcFIVE-LINE STAFF"),
   (0x1D11B, "cSIX-LINE STAFFcSIX-STRING FRETBOARDcFOUR-STRING FRETBOARDcG CLEFeOTTAVA ALTA"),
   (0x1D120, "fBASSAcC CLEFcF CLEFeOTTAVA ALTAfBASSAcDRUM CLEF-1dCLEF-2"),
   (0x1D129, "cMULTIPLE MEASURE RESTcDOUBLE SHARPdFLATcFLAT UPdDOWNcNATURAL UPdDOWNcSHARP UP"),
   (0x1D131, "dDOWNcQUARTER TONE SHARPeFLATcCOMMON TIMEcCUT TIMEcOTTAVA ALTAdBASSA"),
   (0x1D138, "cQUINDICESIMA ALTAdBASSAcMULTI RESTcWHOLE RESTcHALF RESTcQUARTER REST"),
   (0x1D13E, "cEIGHTH RESTcSIXTEENTH RESTcTHIRTY-SECOND RESTcSIXTY-FOURTH REST"),
   (0x1D142, "cONE HUNDRED TWENTY-EIGHTH RESTcX NOTEHEADcPLUS NOTEHEADcCIRCLE X NOTEHEAD"),
   (0x1D146, "cSQUARE NOTEHEAD WHITEeBLACKcTRIANGLE NOTEHEAD UP WHITEfBLACKeLEFT WHITEfBLACK"),
   (0x1D14C, "eRIGHT WHITEfBLACKeDOWN WHITEfBLACKeUP RIGHT WHITEgBLACKcMOON NOTEHEAD WHITE"),
   (0x1D153, "eBLACKcTRIANGLE-ROUND NOTEHEAD DOWN WHITEfBLACKcPARENTHESIS NOTEHEAD"),
   (0x1D157, "cVOID NOTEHEADcNOTEHEAD BLACKcNULL NOTEHEADcCLUSTER NOTEHEAD WHITEeBLACKcBREVE"),
   (0x1D15D, "cWHOLE NOTEcHALF NOTEcQUARTER NOTEcEIGHTH NOTEcSIXTEENTH NOTE"),
   (0x1D162, "cTHIRTY-SECOND NOTEcSIXTY-FOURTH NOTEcONE HUNDRED TWENTY-EIGHTH NOTE"),
   (0x1D165, "cCOMBINING STEMdSPRECHGESANG STEMdTREMOLO-1dTREMOLO-2dTREMOLO-3"),
   (0x1D16A, "cFINGERED TREMOLO-1dTREMOLO-2dTREMOLO-3cCOMBINING AUGMENTATION DOTdFLAG-1"),
   (0x1D16F, "dFLAG-2dFLAG-3dFLAG-4dFLAG-5cBEGIN BEAMcEND BEAMcBEGIN TIEcEND TIEcBEGIN SLUR"),
   (0x1D178, "cEND SLURcBEGIN PHRASEcEND PHRASEcCOMBINING ACCENTdSTACCATOdTENUTO"),
   (0x1D17E, "dSTACCATISSIMOdMARCATOdMARCATO-STACCATOdACCENT-STACCATOdLOUREcARPEGGIATO UP"),
   (0x1D184, "dDOWNcCOMBINING DOITdRIPdFLIPdSMEARdBENDdDOUBLE TONGUEdTRIPLE TONGUE"),
   (0x1D18C, "cRINFORZANDOcSUBITOcZcPIANOcMEZZOcFORTEcCRESCENDOcDECRESCENDOcGRACE NOTE SLASH"),
   (0x1D195, "eNO SLASHcTRcTURNcINVERTED TURNcTURN SLASHdUPcORNAMENT STROKE-1dSTROKE-2"),
   (0x1D19D, "dSTROKE-3dSTROKE-4dSTROKE-5dSTROKE-6dSTROKE-7dSTROKE-8dSTROKE-9dSTROKE-10"),
   (0x1D1A5, "dSTROKE-11cHAUPTSTIMMEcNEBENSTIMMEcEND OF STIMMEcDEGREE SLASH"),
   (0x1D1AA, "cCOMBINING DOWN BOWdUP BOWdHARMONICdSNAP PIZZICATOcPEDAL MARKdUP MARK"),
   (0x1D1B0, "cHALF PEDAL MARKcGLISSANDO UPdDOWNcWITH FINGERNAILScDAMPdALLcMAXIMAcLONGA"),
   (0x1D1B8, "cBREVIScSEMIBREVIS WHITEdBLACKcMINIMAdBLACKcSEMIMINIMA WHITEdBLACKcFUSA WHITE"),
   (0x1D1C0, "dBLACKcLONGA PERFECTA RESTdIMPERFECTA RESTcBREVIS RESTcSEMIBREVIS REST"),
   (0x1D1C5, "cMINIMA RESTcSEMIMINIMA RESTcTEMPUS PERFECTUM CUM PROLATIONE PERFECTA"),
   (0x1D1C8, "gIMPERFECTAgPERFECTA DIMINUTION-1dIMPERFECTUM CUM PROLATIONE PERFECTA"),
   (0x1D1CB, "gIMPERFECTAhDIMINUTION-1hDIMINUTION-2hDIMINUTION-3cCROIXcGREGORIAN C CLEF"),
   (0x1D1D1, "dF CLEFcSQUARE BcVIRGAcPODATUScCLIVIScSCANDICUScCLIMACUScTORCULUScPORRECTUS"),
   (0x1D1DA, "dFLEXUScSCANDICUS FLEXUScTORCULUS RESUPINUScPES SUBPUNCTIScKIEVAN C CLEF"),
   (0x1D1DF, "dEND OF PIECEdFINAL NOTEdRECITATIVE MARKdWHOLE NOTEdHALF NOTE"),
   (0x1D1E4, "dQUARTER NOTE STEM DOWNgUPdEIGHTH NOTE STEM DOWNgUPdFLAT SIGNcSORIcKORON"),
   (0x1D200, "aGREEK VOCAL NOTATION SYMBOL-1dSYMBOL-2dSYMBOL-3dSYMBOL-4dSYMBOL-5dSYMBOL-6"),
   (0x1D206, "dSYMBOL-7dSYMBOL-8dSYMBOL-9dSYMBOL-10dSYMBOL-11dSYMBOL-12dSYMBOL-13dSYMBOL-14"),
   (0x1D20E, "dSYMBOL-15dSYMBOL-16dSYMBOL-17dSYMBOL-18dSYMBOL-19dSYMBOL-20dSYMBOL-21"),
   (0x1D215, "dSYMBOL-22dSYMBOL-23dSYMBOL-24dSYMBOL-50dSYMBOL-51dSYMBOL-52dSYMBOL-53"),
   (0x1D21C, "dSYMBOL-54bINSTRUMENTAL NOTATION SYMBOL-1dSYMBOL-2dSYMBOL-4dSYMBOL-5dSYMBOL-7"),
   (0x1D222, "dSYMBOL-8dSYMBOL-11dSYMBOL-12dSYMBOL-13dSYMBOL-14dSYMBOL-17dSYMBOL-18dSYMBOL-19"),
   (0x1D22A, "dSYMBOL-23dSYMBOL-24dSYMBOL-25dSYMBOL-26dSYMBOL-27dSYMBOL-29dSYMBOL-30"),
   (0x1D231, "dSYMBOL-32dSYMBOL-36dSYMBOL-37dSYMBOL-38dSYMBOL-39dSYMBOL-40dSYMBOL-42"),
   (0x1D238, "dSYMBOL-43dSYMBOL-45dSYMBOL-47dSYMBOL-48dSYMBOL-49dSYMBOL-50dSYMBOL-51"),
   (0x1D23F, "dSYMBOL-52dSYMBOL-53dSYMBOL-54aCOMBINING GREEK MUSICAL TRISEMEdTETRASEME"),
   (0x1D244, "dPENTASEMEaGREEK MUSICAL LEIMMA"),
   (0x1D2E0, "aMAYAN NUMERAL ZEROcONEcTWOcTHREEcFOURcFIVEcSIXcSEVENcEIGHTcNINEcTENcELEVEN"),
   (0x1D2EC, "cTWELVEcTHIRTEENcFOURTEENcFIFTEENcSIXTEENcSEVENTEENcEIGHTEENcNINETEEN"),
   (0x1D300, "aMONOGRAM FOR EARTHaDIGRAM FOR HEAVENLY EARTHcHUMAN EARTHcEARTHLY HEAVENdHUMAN"),
   (0x1D305, "cEARTHaTETRAGRAM FOR CENTREcFULL CIRCLEcMIREDcBARRIERcKEEPING SMALLcCONTRARIETY"),
   (0x1D30C, "cASCENTcOPPOSITIONcBRANCHING OUTcDEFECTIVENESS OR DISTORTIONcDIVERGENCE"),
   (0x1D311, "cYOUTHFULNESScINCREASEcPENETRATIONcREACHcCONTACTcHOLDING BACKcWAITINGcFOLLOWING"),
   (0x1D319, "cADVANCEcRELEASEcRESISTANCEcEASEcJOYcCONTENTIONcENDEAVOURcDUTIEScCHANGE"),
   (0x1D322, "cDECISIVENESScBOLD RESOLUTIONcPACKINGcLEGIONcCLOSENESScKINSHIPcGATHERING"),
   (0x1D329, "cSTRENGTHcPURITYcFULLNESScRESIDENCEcLAW OR MODELcRESPONSEcGOING TO MEET"),
   (0x1D330, "cENCOUNTERScSTOVEcGREATNESScENLARGEMENTcPATTERNcRITUALcFLIGHT"),
   (0x1D337, "cVASTNESS OR WASTINGcCONSTANCYcMEASUREcETERNITYcUNITYcDIMINISHMENTcCLOSED MOUTH"),
   (0x1D33E, "cGUARDEDNESScGATHERING INcMASSINGcACCUMULATIONcEMBELLISHMENTcDOUBTcWATCH"),
   (0x1D345, "cSINKINGcINNERcDEPARTUREcDARKENINGcDIMMINGcEXHAUSTIONcSEVERANCEcSTOPPAGE"),
   (0x1D34D, "cHARDNESScCOMPLETIONcCLOSUREcFAILUREcAGGRAVATIONcCOMPLIANCEcON THE VERGE"),
   (0x1D354, "cDIFFICULTIEScLABOURINGcFOSTERING"),
   (0x1D360, "aCOUNTING ROD UNIT DIGIT ONEeTWOeTHREEeFOUReFIVEeSIXeSEVENeEIGHTeNINE"),
   (0x1D369, "cTENS DIGIT ONEeTWOeTHREEeFOUReFIVEeSIXeSEVENeEIGHTeNINE"),
   (0x1D372, "aIDEOGRAPHIC TALLY MARK ONEdTWOdTHREEdFOURdFIVEaTALLY MARK ONEcFIVE"),
   (0x1D400, "aMATHEMATICAL BOLD CAPITAL AdBdCdDdEdFdGdHdIdJdKdLdMdNdOdPdQdRdSdTdUdVdWdXdYdZ"),
   (0x1D41A, "cSMALL AdBdCdDdEdFdGdHdIdJdKdLdMdNdOdPdQdRdSdTdUdVdWdXdYdZbITALIC CAPITAL AdBdC"),
   (0x1D437, "dDdEdFdGdHdIdJdKdLdMdNdOdPdQdRdSdTdUdVdWdXdYdZcSMALL AdBdCdDdEdFdG"),
   (0x1D456, "dIdJdKdLdMdNdOdPdQdRdSdTdUdVdWdXdYdZbBOLD ITALIC CAPITAL AeBeCeDeEeFeGeHeIeJeK"),
   (0x1D473, "eLeMeNeOePeQeReSeTeUeVeWeXeYeZdSMALL AeBeCeDeEeFeGeHeIeJeKeLeMeNeOePeQeReSeTeU"),
   (0x1D497, "eVeWeXeYeZbSCRIPT CAPITAL A"), (0x1D49E, "dCdD"), (0x1D4A2, "dG"), (0x1D4A5, "dJdK"),
   (0x1D4A9, "dNdOdPdQ"), (0x1D4AE, "dSdTdUdVdWdXdYdZcSMALL AdBdCdD"), (0x1D4BB, "dF"),
   (0x1D4BD, "dHdIdJdKdLdMdN"),
   (0x1D4C5, "dPdQdRdSdTdUdVdWdXdYdZbBOLD SCRIPT CAPITAL AeBeCeDeEeFeGeHeIeJeKeLeMeNeOePeQeR"),
   (0x1D4E2, "eSeTeUeVeWeXeYeZdSMALL AeBeCeDeEeFeGeHeIeJeKeLeMeNeOePeQeReSeTeUeVeWeXeYeZ"),
   (0x1D504, "bFRAKTUR CAPITAL AdB"), (0x1D507, "dDdEdFdG"), (0x1D50D, "dJdKdLdMdNdOdPdQ"),
   (0x1D516, "dSdTdUdVdWdXdY"),
   (0x1D51E, "cSMALL AdBdCdDdEdFdGdHdIdJdKdLdMdNdOdPdQdRdSdTdUdVdWdXdYdZ"),
   (0x1D538, "bDOUBLE-STRUCK CAPITAL AdB"), (0x1D53B, "dDdEdFdG"), (0x1D540, "dIdJdKdLdM"),
   (0x1D546, "dO"), (0x1D54A, "dSdTdUdVdWdXdY"),
   (0x1D552, "cSMALL AdBdCdDdEdFdGdHdIdJdKdLdMdNdOdPdQdRdSdTdUdVdWdXdYdZ"),
   (0x1D56C, "bBOLD FRAKTUR CAPITAL AeBeCeDeEeFeGeHeIeJeKeLeMeNeOePeQeReSeTeUeVeWeXeYeZ"),
   (0x1D586, "dSMALL AeBeCeDeEeFeGeHeIeJeKeLeMeNeOePeQeReSeTeUeVeWeXeYeZbSANS-SERIF CAPITAL A"),
   (0x1D5A1, "dBdCdDdEdFdGdHdIdJdKdLdMdNdOdPdQdRdSdTdUdVdWdXdYdZcSMALL AdBdCdDdEdFdGdHdIdJdK"),
   (0x1D5C5, "dLdMdNdOdPdQdRdSdTdUdVdWdXdYdZcBOLD CAPITAL AeBeCeDeEeFeGeHeIeJeKeLeMeNeOePeQeR"),
   (0x1D5E6, "eSeTeUeVeWeXeYeZdSMALL AeBeCeDeEeFeGeHeIeJeKeLeMeNeOePeQeReSeTeUeVeWeXeYeZ"),
   (0x1D608, "cITALIC CAPITAL AeBeCeDeEeFeGeHeIeJeKeLeMeNeOePeQeReSeTeUeVeWeXeYeZdSMALL AeBeC"),
   (0x1D625, "eDeEeFeGeHeIeJeKeLeMeNeOePeQeReSeTeUeVeWeXeYeZcBOLD ITALIC CAPITAL AfBfCfDfEfF"),
   (0x1D642, "fGfHfIfJfKfLfMfNfOfPfQfRfSfTfUfVfWfXfYfZeSMALL AfBfCfDfEfFfGfHfIfJfKfLfMfNfOfP"),
   (0x1D666, "fQfRfSfTfUfVfWfXfYfZbMONOSPACE CAPITAL AdBdCdDdEdFdGdHdIdJdKdLdMdNdOdPdQdRdSdT"),
   (0x1D684, "dUdVdWdXdYdZcSMALL AdBdCdDdEdFdGdHdIdJdKdLdMdNdOdPdQdRdSdTdUdVdWdXdYdZ"),
   (0x1D6A4, "bITALIC SMALL DOTLESS IeJ"),
   (0x1D6A8, "bBOLD CAPITAL ALPHAdBETAdGAMMAdDELTAdEPSILONdZETAdETAdTHETAdIOTAdKAPPAdLAMDAdMU"),
   (0x1D6B4, "dNUdXIdOMICRONdPIdRHOdTHETA SYMBOLdSIGMAdTAUdUPSILONdPHIdCHIdPSIdOMEGAcNABLA"),
   (0x1D6C2, "cSMALL ALPHAdBETAdGAMMAdDELTAdEPSILONdZETAdETAdTHETAdIOTAdKAPPAdLAMDAdMUdNUdXI"),
   (0x1D6D0, "dOMICRONdPIdRHOdFINAL SIGMAdSIGMAdTAUdUPSILONdPHIdCHIdPSIdOMEGA"),
   (0x1D6DB, "cPARTIAL DIFFERENTIALcEPSILON SYMBOLcTHETA SYMBOLcKAPPA SYMBOLcPHI SYMBOL"),
   (0x1D6E0, "cRHO SYMBOLcPI SYMBOLbITALIC CAPITAL ALPHAdBETAdGAMMAdDELTAdEPSILONdZETAdETA"),
   (0x1D6E9, "dTHETAdIOTAdKAPPAdLAMDAdMUdNUdXIdOMICRONdPIdRHOdTHETA SYMBOLdSIGMAdTAUdUPSILON"),
   (0x1D6F7, "dPHIdCHIdPSIdOMEGAcNABLAcSMALL ALPHAdBETAdGAMMAdDELTAdEPSILONdZETAdETAdTHETA"),
   (0x1D704, "dIOTAdKAPPAdLAMDAdMUdNUdXIdOMICRONdPIdRHOdFINAL SIGMAdSIGMAdTAUdUPSILONdPHIdCHI"),
   (0x1D713, "dPSIdOMEGAcPARTIAL DIFFERENTIALcEPSILON SYMBOLcTHETA SYMBOLcKAPPA SYMBOL"),
   (0x1D719, "cPHI SYMBOLcRHO SYMBOLcPI SYMBOLbBOLD ITALIC CAPITAL ALPHAeBETAeGAMMAeDELTA"),
   (0x1D720, "eEPSILONeZETAeETAeTHETAeIOTAeKAPPAeLAMDAeMUeNUeXIeOMICRONePIeRHOeTHETA SYMBOL"),
   (0x1D72E, "eSIGMAeTAUeUPSILONePHIeCHIePSIeOMEGAdNABLAdSMALL ALPHAeBETAeGAMMAeDELTAeEPSILON"),
   (0x1D73B, "eZETAeETAeTHETAeIOTAeKAPPAeLAMDAeMUeNUeXIeOMICRONePIeRHOeFINAL SIGMAeSIGMAeTAU"),
   (0x1D74A, "eUPSILONePHIeCHIePSIeOMEGAdPARTIAL DIFFERENTIALdEPSILON SYMBOLdTHETA SYMBOL"),
   (0x1D752, "dKAPPA SYMBOLdPHI SYMBOLdRHO SYMBOLdPI SYMBOLbSANS-SERIF BOLD CAPITAL ALPHA"),
   (0x1D757, "eBETAeGAMMAeDELTAeEPSILONeZETAeETAeTHETAeIOTAeKAPPAeLAMDAeMUeNUeXIeOMICRONePI"),
   (0x1D766, "eRHOeTHETA SYMBOLeSIGMAeTAUeUPSILONePHIeCHIePSIeOMEGAdNABLAdSMALL ALPHAeBETA"),
   (0x1D772, "eGAMMAeDELTAeEPSILONeZETAeETAeTHETAeIOTAeKAPPAeLAMDAeMUeNUeXIeOMICRONePIeRHO"),
   (0x1D781, "eFINAL SIGMAeSIGMAeTAUeUPSILONePHIeCHIePSIeOMEGAdPARTIAL DIFFERENTIAL"),
   (0x1D78A, "dEPSILON SYMBOLdTHETA SYMBOLdKAPPA SYMBOLdPHI SYMBOLdRHO SYMBOLdPI SYMBOL"),
   (0x1D790, "dITALIC CAPITAL ALPHAfBETAfGAMMAfDELTAfEPSILONfZETAfETAfTHETAfIOTAfKAPPAfLAMDA"),
   (0x1D79B, "fMUfNUfXIfOMICRONfPIfRHOfTHETA SYMBOLfSIGMAfTAUfUPSILONfPHIfCHIfPSIfOMEGAeNABLA"),
   (0x1D7AA, "eSMALL ALPHAfBETAfGAMMAfDELTAfEPSILONfZETAfETAfTHETAfIOTAfKAPPAfLAMDAfMUfNUfXI"),
   (0x1D7B8, "fOMICRONfPIfRHOfFINAL SIGMAfSIGMAfTAUfUPSILONfPHIfCHIfPSIfOMEGA"),
   (0x1D7C3, "ePARTIAL DIFFERENTIALeEPSILON SYMBOLeTHETA SYMBOLeKAPPA SYMBOLePHI SYMBOL"),
   (0x1D7C8, "eRHO SYMBOLePI SYMBOLbBOLD CAPITAL DIGAMMAcSMALL DIGAMMA"),
   (0x1D7CE, "cDIGIT ZEROdONEdTWOdTHREEdFOURdFIVEdSIXdSEVENdEIGHTdNINE"),
   (0x1D7D8, "bDOUBLE-STRUCK DIGIT ZEROdONEdTWOdTHREEdFOURdFIVEdSIXdSEVENdEIGHTdNINE"),
   (0x1D7E2, "bSANS-SERIF DIGIT ZEROdONEdTWOdTHREEdFOURdFIVEdSIXdSEVENdEIGHTdNINE"),
   (0x1D7EC, "cBOLD DIGIT ZEROeONEeTWOeTHREEeFOUReFIVEeSIXeSEVENeEIGHTeNINE"),
   (0x1D7F6, "bMONOSPACE DIGIT ZEROdONEdTWOdTHREEdFOURdFIVEdSIXdSEVENdEIGHTdNINE"),
   (0x1D800, "aSIGNWRITING HAND-FIST INDEXbHAND-CIRCLE INDEXbHAND-CUP INDEXbHAND-OVAL INDEX"),
   (0x1D804, "bHAND-HINGE INDEXbHAND-ANGLE INDEXbHAND-FIST INDEX BENTbHAND-CIRCLE INDEX BENT"),
   (0x1D808, "bHAND-FIST THUMB UNDER INDEX BENTcINDEX RAISED KNUCKLEdCUPPEDdHINGEDeLOW"),
   (0x1D80D, "bHAND-CIRCLE INDEX HINGEbHAND-FIST INDEX MIDDLEbHAND-CIRCLE INDEX MIDDLE"),
   (0x1D810, "bHAND-FIST INDEX MIDDLE BENTeRAISED KNUCKLESeHINGEDdUP MIDDLE HINGED"),
   (0x1D814, "dHINGED MIDDLE UPdMIDDLE CONJOINEDfINDEX BENTfMIDDLE BENTfCUPPEDfHINGEDeCROSSED"),
   (0x1D81B, "bHAND-CIRCLE INDEX MIDDLE CROSSEDbHAND-FIST MIDDLE BENT OVER INDEX"),
   (0x1D81D, "cINDEX BENT OVER MIDDLEdMIDDLE THUMBbHAND-CIRCLE INDEX MIDDLE THUMB"),
   (0x1D820, "bHAND-FIST INDEX MIDDLE STRAIGHT THUMB BENTeBENT THUMB STRAIGHTeTHUMB BENT"),
   (0x1D823, "eHINGED SPREAD THUMB SIDEdUP MIDDLE HINGED THUMB SIDEhCONJOINED"),
   (0x1D826, "dHINGED MIDDLE UP THUMB SIDEdMIDDLE UP SPREAD THUMB FORWARDeTHUMB CUPPED"),
   (0x1D829, "fCIRCLEDfHOOKEDfHINGEDcTHUMB BETWEEN INDEX MIDDLE STRAIGHT"),
   (0x1D82D, "cINDEX MIDDLE CONJOINED THUMB SIDEhCONJOINEDhBENTcMIDDLE THUMB HOOKED INDEX UP"),
   (0x1D831, "cINDEX THUMB HOOKED MIDDLE UPdMIDDLE CONJOINED HINGED THUMB SIDE"),
   (0x1D833, "eCROSSED THUMB SIDEeCONJOINED THUMB FORWARDfCUPPED THUMB FORWARD"),
   (0x1D836, "cMIDDLE THUMB CUPPED INDEX UPcINDEX THUMB CUPPED MIDDLE UP"),
   (0x1D838, "cMIDDLE THUMB CIRCLED INDEX UPgHINGEDcINDEX THUMB ANGLED OUT MIDDLE UP"),
   (0x1D83B, "fIN MIDDLE UPeCIRCLED MIDDLE UPdMIDDLE THUMB CONJOINED HINGEDfANGLED OUTfANGLED"),
   (0x1D840, "cMIDDLE THUMB ANGLED OUT INDEX UPhCROSSEDfINDEX UP"),
   (0x1D843, "cINDEX THUMB HOOKED MIDDLE HINGEDbHAND-FLAT FOUR FINGERSeBENTeHINGEDeCONJOINED"),
   (0x1D848, "fSPLITbHAND-CLAW FOUR FINGERS CONJOINEDbHAND-FIST FOUR FINGERS CONJOINED BENT"),
   (0x1D84B, "bHAND-HINGE FOUR FINGERS CONJOINEDbHAND-FLAT FIVE FINGERS SPREAD"),
   (0x1D84D, "cHEEL FIVE FINGERS SPREADcFIVE FINGERS SPREAD FOUR BENT"),
   (0x1D84F, "cHEEL FIVE FINGERS SPREAD FOUR BENTcFIVE FINGERS SPREAD BENT"),
   (0x1D851, "cHEEL FIVE FINGERS SPREAD BENTcFIVE FINGERS SPREAD THUMB FORWARD"),
   (0x1D853, "bHAND-CUP FIVE FINGERS SPREADfOPENbHAND-HINGE FIVE FINGERS SPREAD OPEN"),
   (0x1D856, "bHAND-OVAL FIVE FINGERS SPREADbHAND-FLAT FIVE FINGERS SPREAD HINGEDgTHUMB SIDE"),
   (0x1D859, "gNO THUMBbHAND-FLATcBETWEEN PALM FACINGScHEELcTHUMB SIDEcHEEL THUMB SIDE"),
   (0x1D85F, "cTHUMB BENTdFORWARDcSPLIT INDEX THUMB SIDEdCENTREeTHUMB SIDEgBENTdLITTLE"),
   (0x1D866, "bHAND-CLAWcTHUMB SIDEcNO THUMBcTHUMB FORWARDbHAND-HOOK CURLICUEbHAND-HOOK"),
   (0x1D86C, "bHAND-CUP OPENbHAND-CUPcOPEN THUMB SIDEcTHUMB SIDEcOPEN NO THUMBcNO THUMB"),
   (0x1D872, "cOPEN THUMB FORWARDcTHUMB FORWARDbHAND-CURLICUE OPENbHAND-CURLICUEbHAND-CIRCLE"),
   (0x1D877, "bHAND-OVALcTHUMB SIDEcNO THUMBcTHUMB FORWARDbHAND-HINGE OPENdTHUMB FORWARD"),
   (0x1D87D, "bHAND-HINGEcSMALLcOPEN THUMB SIDEcTHUMB SIDEcOPEN NO THUMBcNO THUMB"),
   (0x1D883, "cTHUMB SIDE TOUCHING INDEXdBETWEEN MIDDLE RINGbHAND-ANGLE"),
   (0x1D886, "bHAND-FIST INDEX MIDDLE RINGbHAND-CIRCLE INDEX MIDDLE RING"),
   (0x1D888, "bHAND-HINGE INDEX MIDDLE RINGbHAND-ANGLE INDEX MIDDLE RINGbHAND-HINGE LITTLE"),
   (0x1D88B, "bHAND-FIST INDEX MIDDLE RING BENTfCONJOINED"),
   (0x1D88D, "bHAND-HINGE INDEX MIDDLE RING CONJOINEDbHAND-FIST LITTLE DOWNeRIPPLE STRAIGHT"),
   (0x1D890, "fCURVEDeOTHERS CIRCLEDdUPcTHUMB UNDER LITTLE UPbHAND-CIRCLE LITTLE UP"),
   (0x1D895, "bHAND-OVAL LITTLE UPbHAND-ANGLE LITTLE UPbHAND-FIST LITTLE RAISED KNUCKLEdBENT"),
   (0x1D899, "dTOUCHES THUMBdTHUMBbHAND-HINGE LITTLE THUMBbHAND-FIST LITTLE INDEX THUMB"),
   (0x1D89D, "bHAND-HINGE LITTLE INDEX THUMBbHAND-ANGLE LITTLE INDEX THUMB INDEX THUMB OUT"),
   (0x1D89F, "gTHUMBbHAND-FIST LITTLE INDEXbHAND-CIRCLE LITTLE INDEXbHAND-HINGE LITTLE INDEX"),
   (0x1D8A3, "bHAND-ANGLE LITTLE INDEXbHAND-FIST INDEX MIDDLE LITTLE"),
   (0x1D8A5, "bHAND-CIRCLE INDEX MIDDLE LITTLEbHAND-HINGE INDEX MIDDLE LITTLEcRING"),
   (0x1D8A8, "bHAND-ANGLE INDEX MIDDLE LITTLEbHAND-FIST INDEX MIDDLE CROSS LITTLE"),
   (0x1D8AA, "bHAND-CIRCLE INDEX MIDDLE CROSS LITTLEbHAND-FIST RING DOWN"),
   (0x1D8AC, "bHAND-HINGE RING DOWN INDEX THUMB HOOK MIDDLE"),
   (0x1D8AD, "bHAND-ANGLE RING DOWN MIDDLE THUMB INDEX CROSSbHAND-FIST RING UPdRAISED KNUCKLE"),
   (0x1D8B0, "dLITTLEbHAND-CIRCLE RING LITTLEbHAND-OVAL RING LITTLEbHAND-ANGLE RING LITTLE"),
   (0x1D8B4, "bHAND-FIST RING MIDDLEeCONJOINEDeRAISED KNUCKLESdINDEXdTHUMB"),
   (0x1D8B9, "bHAND-HOOK RING THUMBbHAND-FIST INDEX RING LITTLEbHAND-CIRCLE INDEX RING LITTLE"),
   (0x1D8BC, "bHAND-CURLICUE INDEX RING LITTLE ONbHAND-HOOK INDEX RING LITTLE OUTfINfUNDER"),
   (0x1D8C0, "bHAND-CUP INDEX RING LITTLEbHAND-HINGE INDEX RING LITTLE"),
   (0x1D8C2, "bHAND-ANGLE INDEX RING LITTLE OUTeLITTLEbHAND-FIST MIDDLE DOWN"),
   (0x1D8C5, "bHAND-HINGE MIDDLEbHAND-FIST MIDDLE UPbHAND-CIRCLE MIDDLE UP"),
   (0x1D8C8, "bHAND-FIST MIDDLE RAISED KNUCKLEdUP THUMB SIDEbHAND-HOOK MIDDLE THUMB"),
   (0x1D8CB, "bHAND-FIST MIDDLE THUMB LITTLEdLITTLEdRING LITTLE"),
   (0x1D8CE, "bHAND-CIRCLE MIDDLE RING LITTLEbHAND-CURLICUE MIDDLE RING LITTLE ON"),
   (0x1D8D0, "bHAND-CUP MIDDLE RING LITTLEbHAND-HINGE MIDDLE RING LITTLE"),
   (0x1D8D2, "bHAND-ANGLE MIDDLE RING LITTLE OUTfINeLITTLE"),
   (0x1D8D5, "bHAND-CIRCLE MIDDLE RING LITTLE BENTbHAND-CLAW MIDDLE RING LITTLE CONJOINED"),
   (0x1D8D7, "gSIDEbHAND-HOOK MIDDLE RING LITTLE CONJOINED OUTgINfCONJOINED"),
   (0x1D8DB, "bHAND-HINGE INDEX HINGEDbHAND-FIST INDEX THUMB SIDEbHAND-HINGE INDEX THUMB SIDE"),
   (0x1D8DE, "bHAND-FIST INDEX THUMB SIDE THUMB DIAGONALgCONJOINEDgBENTfINDEX BENTfBOTH BENT"),
   (0x1D8E3, "fINDEX HINGEeFORWARD INDEX STRAIGHTgBENTeHOOKeCURLICUEeCURVE THUMB INSIDE"),
   (0x1D8E9, "bHAND-CLAW INDEX THUMB CURVE THUMB INSIDE"),
   (0x1D8EA, "bHAND-FIST INDEX THUMB CURVE THUMB UNDEReCIRCLEbHAND-CUP INDEX THUMBeOPEN"),
   (0x1D8EE, "bHAND-HINGE INDEX THUMB OPENeLARGEdTHUMBeSMALLbHAND-ANGLE INDEX THUMB OUTeIN"),
   (0x1D8F4, "dTHUMBbHAND-FIST THUMBdHEELdSIDE DIAGONALeCONJOINEDeBENTdFORWARD"),
   (0x1D8FB, "dBETWEEN INDEX MIDDLEeMIDDLE RINGeRING LITTLEdUNDER TWO FINGERS"),
   (0x1D8FF, "dOVER TWO FINGERSdUNDER THREE FINGERSeFOUR FINGERSdOVER FOUR RAISED KNUCKLES"),
   (0x1D903, "bHAND-FISTcHEELbTOUCH SINGLEcMULTIPLEcBETWEENbGRASP SINGLEcMULTIPLEcBETWEEN"),
   (0x1D90B, "bSTRIKE SINGLEcMULTIPLEcBETWEENbBRUSH SINGLEcMULTIPLEcBETWEENbRUB SINGLE"),
   (0x1D912, "cMULTIPLEcBETWEENbSURFACE SYMBOLScBETWEENbSQUEEZE LARGE SINGLEcSMALL SINGLE"),
   (0x1D918, "cLARGE MULTIPLEcSMALL MULTIPLEcSEQUENTIALbFLICK LARGE SINGLEcSMALL SINGLE"),
   (0x1D91D, "cLARGE MULTIPLEcSMALL MULTIPLEcSEQUENTIALbSQUEEZE FLICK ALTERNATING"),
   (0x1D921, "bMOVEMENT-HINGE UP DOWN LARGEeSMALLdSEQUENTIALcDOWN SEQUENTIAL"),
   (0x1D925, "cUP DOWN ALTERNATING LARGEfSMALLcSIDE TO SIDE SCISSORS"),
   (0x1D928, "bMOVEMENT-WALLPLANE FINGER CONTACTbMOVEMENT-FLOORPLANE FINGER CONTACT"),
   (0x1D92A, "bMOVEMENT-WALLPLANE SINGLE STRAIGHT SMALLeMEDIUMeLARGEeLARGESTdWRIST FLEX"),
   (0x1D92F, "cDOUBLE STRAIGHTdWRIST FLEXdALTERNATINGeWRIST FLEXcCROSS"),
   (0x1D934, "cTRIPLE STRAIGHT MOVEMENTdWRIST FLEXdALTERNATINGeWRIST FLEXcBEND SMALLdMEDIUM"),
   (0x1D93A, "dLARGEcCORNER SMALLdMEDIUMdLARGEdROTATIONcCHECK SMALLdMEDIUMdLARGEcBOX SMALL"),
   (0x1D943, "dMEDIUMdLARGEcZIGZAG SMALLdMEDIUMdLARGEcPEAKS SMALLdMEDIUMdLARGE"),
   (0x1D94B, "bTRAVEL-WALLPLANE ROTATION-WALLPLANE SINGLEdDOUBLEdALTERNATING"),
   (0x1D94E, "cROTATION-FLOORPLANE SINGLEdDOUBLEdALTERNATINGcSHAKINGcARM SPIRAL SINGLEeDOUBLE"),
   (0x1D954, "eTRIPLEbMOVEMENT-DIAGONAL AWAY SMALLdMEDIUMdLARGEdLARGESTcTOWARDS SMALLdMEDIUM"),
   (0x1D95B, "dLARGEdLARGESTcBETWEEN AWAY SMALLeMEDIUMeLARGEeLARGESTdTOWARDS SMALLeMEDIUM"),
   (0x1D963, "eLARGEeLARGESTbMOVEMENT-FLOORPLANE SINGLE STRAIGHT SMALLeMEDIUMeLARGEeLARGEST"),
   (0x1D969, "dWRIST FLEXcDOUBLE STRAIGHTdWRIST FLEXdALTERNATINGeWRIST FLEXcCROSS"),
   (0x1D96F, "cTRIPLE STRAIGHT MOVEMENTdWRIST FLEXdALTERNATING MOVEMENTeWRIST FLEXcBEND"),
   (0x1D974, "cCORNER SMALLdMEDIUMdLARGEcCHECKcBOX SMALLdMEDIUMdLARGEcZIGZAG SMALLdMEDIUM"),
   (0x1D97D, "dLARGEcPEAKS SMALLdMEDIUMdLARGEbTRAVEL-FLOORPLANE ROTATION-FLOORPLANE SINGLE"),
   (0x1D982, "dDOUBLEdALTERNATINGcROTATION-WALLPLANE SINGLEdDOUBLEdALTERNATINGcSHAKING"),
   (0x1D988, "bMOVEMENT-WALLPLANE CURVE QUARTER SMALLeMEDIUMeLARGEeLARGESTdHALF-CIRCLE SMALL"),
   (0x1D98D, "eMEDIUMeLARGEeLARGESTdTHREE-QUARTER CIRCLE SMALLfMEDIUMcHUMP SMALLdMEDIUMdLARGE"),
   (0x1D995, "cLOOP SMALLdMEDIUMdLARGEdSMALL DOUBLEcWAVE CURVE DOUBLE SMALLfMEDIUMfLARGE"),
   (0x1D99C, "eTRIPLE SMALLfMEDIUMfLARGEcCURVE THEN STRAIGHTcCURVED CROSS SMALLeMEDIUM"),
   (0x1D9A2, "bROTATION-WALLPLANE SINGLEcDOUBLEcALTERNATEbMOVEMENT-WALLPLANE SHAKING"),
   (0x1D9A6, "cCURVE HITTING FRONT WALLcHUMP HITTING FRONT WALLcLOOP HITTING FRONT WALL"),
   (0x1D9A9, "cWAVE HITTING FRONT WALLbROTATION-WALLPLANE SINGLE HITTING FRONT WALL"),
   (0x1D9AB, "cDOUBLE HITTING FRONT WALLcALTERNATING HITTING FRONT WALL"),
   (0x1D9AD, "bMOVEMENT-WALLPLANE CURVE HITTING CHESTcHUMP HITTING CHESTcLOOP HITTING CHEST"),
   (0x1D9B0, "cWAVE HITTING CHESTbROTATION-WALLPLANE SINGLE HITTING CHEST"),
   (0x1D9B2, "cDOUBLE HITTING CHESTcALTERNATING HITTING CHEST"),
   (0x1D9B4, "bMOVEMENT-WALLPLANE WAVE DIAGONAL PATH SMALLfMEDIUMfLARGE"),
   (0x1D9B7, "bMOVEMENT-FLOORPLANE CURVE HITTING CEILING SMALLfLARGE"),
   (0x1D9B9, "cHUMP HITTING CEILING SMALL DOUBLEfLARGE DOUBLEfSMALL TRIPLEfLARGE TRIPLE"),
   (0x1D9BD, "cLOOP HITTING CEILING SMALL SINGLEfLARGE SINGLEfSMALL DOUBLEfLARGE DOUBLE"),
   (0x1D9C1, "cWAVE HITTING CEILING SMALLfLARGEbROTATION-FLOORPLANE SINGLE HITTING CEILING"),
   (0x1D9C4, "cDOUBLE HITTING CEILINGcALTERNATING HITTING CEILING"),
   (0x1D9C6, "bMOVEMENT-FLOORPLANE CURVE HITTING FLOOR SMALLfLARGE"),
   (0x1D9C8, "cHUMP HITTING FLOOR SMALL DOUBLEfLARGE DOUBLEfTRIPLE SMALL TRIPLEgLARGE TRIPLE"),
   (0x1D9CC, "cLOOP HITTING FLOOR SMALL SINGLEfLARGE SINGLEfSMALL DOUBLEfLARGE DOUBLE"),
   (0x1D9D0, "cWAVE HITTING FLOOR SMALLfLARGEbROTATION-FLOORPLANE SINGLE HITTING FLOOR"),
   (0x1D9D3, "cDOUBLE HITTING FLOORcALTERNATING HITTING FLOORbMOVEMENT-FLOORPLANE CURVE SMALL"),
   (0x1D9D6, "dMEDIUMdLARGEdLARGESTdCOMBINEDcHUMP SMALLcLOOP SMALLcWAVE SNAKEdSMALLdLARGE"),
   (0x1D9DF, "bROTATION-FLOORPLANE SINGLEcDOUBLEcALTERNATING"),
   (0x1D9E2, "bMOVEMENT-FLOORPLANE SHAKING PARALLEL"),
   (0x1D9E3, "bMOVEMENT-WALLPLANE ARM CIRCLE SMALL SINGLEeMEDIUM SINGLEeSMALL DOUBLE"),
   (0x1D9E6, "eMEDIUM DOUBLEbMOVEMENT-FLOORPLANE ARM CIRCLE HITTING WALL SMALL SINGLE"),
   (0x1D9E8, "gMEDIUM SINGLEgLARGE SINGLEgSMALL DOUBLEgMEDIUM DOUBLEgLARGE DOUBLE"),
   (0x1D9ED, "bMOVEMENT-WALLPLANE WRIST CIRCLE FRONT SINGLEfDOUBLE"),
   (0x1D9EF, "bMOVEMENT-FLOORPLANE WRIST CIRCLE HITTING WALL SINGLEgDOUBLE"),
   (0x1D9F1, "bMOVEMENT-WALLPLANE FINGER CIRCLES SINGLEeDOUBLE"),
   (0x1D9F3, "bMOVEMENT-FLOORPLANE FINGER CIRCLES HITTING WALL SINGLEgDOUBLE"),
   (0x1D9F5, "bDYNAMIC ARROWHEAD SMALLdLARGEcFASTcSLOWcTENSEcRELAXEDcSIMULTANEOUSdALTERNATING"),
   (0x1D9FD, "cEVERY OTHER TIMEcGRADUALbHEADcRIMcMOVEMENT-WALLPLANE STRAIGHTdTILT"),
   (0x1DA03, "cMOVEMENT-FLOORPLANE STRAIGHTcMOVEMENT-WALLPLANE CURVE"),
   (0x1DA05, "cMOVEMENT-FLOORPLANE CURVEcMOVEMENT CIRCLE"),
   (0x1DA07, "bFACE DIRECTION POSITION NOSE FORWARD TILTINGfUP OR DOWNiTILTING"),
   (0x1DA0A, "bEYEBROWS STRAIGHT UPdNEUTRALdDOWNbDREAMY EYEBROWS NEUTRAL DOWNdDOWN NEUTRAL"),
   (0x1DA0F, "dUP NEUTRALdNEUTRAL UPbFOREHEAD NEUTRALcCONTACTcWRINKLEDbEYES OPENcSQUEEZED"),
   (0x1DA16, "cCLOSEDbEYE BLINK SINGLEdMULTIPLEbEYES HALF OPENcWIDE OPENcHALF CLOSED"),
   (0x1DA1C, "cWIDENING MOVEMENTbEYE WINKbEYELASHES UPcDOWNcFLUTTERING"),
   (0x1DA21, "bEYEGAZE-WALLPLANE STRAIGHTdDOUBLEdALTERNATINGbEYEGAZE-FLOORPLANE STRAIGHT"),
   (0x1DA25, "dDOUBLEdALTERNATINGbEYEGAZE-WALLPLANE CURVEDbEYEGAZE-FLOORPLANE CURVED"),
   (0x1DA29, "bEYEGAZE-WALLPLANE CIRCLINGbCHEEKS PUFFEDcNEUTRALcSUCKEDbTENSE CHEEKS HIGH"),
   (0x1DA2E, "dMIDDLEdLOWbEARSbNOSE NEUTRALcCONTACTcWRINKLEScWIGGLESbAIR BLOWING OUT"),
   (0x1DA36, "cSUCKING INcBLOW SMALL ROTATIONScSUCK SMALL ROTATIONSbBREATH INHALEcEXHALE"),
   (0x1DA3B, "bMOUTH CLOSED NEUTRALdFORWARDdCONTACTcSMILEdWRINKLEDdOPENcFROWNdWRINKLEDdOPEN"),
   (0x1DA44, "cOPEN CIRCLEdFORWARDdWRINKLEDdOVALeWRINKLEDeYAWNdRECTANGLEeWRINKLEDeYAWNcKISS"),
   (0x1DA4E, "dFORWARDdWRINKLEDcTENSEdFORWARDdSUCKEDbLIPS PRESSED TOGETHER"),
   (0x1DA54, "bLIP LOWER OVER UPPERcUPPER OVER LOWERbMOUTH CORNERScWRINKLES SINGLEdDOUBLE"),
   (0x1DA59, "bTONGUE STICKING OUT FARcLICKING LIPScTIP BETWEEN LIPSdTOUCHING INSIDE MOUTH"),
   (0x1DA5D, "cINSIDE MOUTH RELAXEDcMOVES AGAINST CHEEKcCENTRE STICKING OUTdINSIDE MOUTH"),
   (0x1DA61, "bTEETHcMOVEMENTcON TONGUEeMOVEMENTdLIPSeMOVEMENTcBITE LIPS"),
   (0x1DA68, "bMOVEMENT-WALLPLANE JAWbMOVEMENT-FLOORPLANE JAWbNECKbHAIRbEXCITEMENT"),
   (0x1DA6D, "bSHOULDER HIP SPINEdPOSITIONSbWALLPLANE SHOULDER HIP MOVE"),
   (0x1DA70, "bFLOORPLANE SHOULDER HIP MOVEbSHOULDER TILTING FROM WAIST"),
   (0x1DA72, "bTORSO-WALLPLANE STRAIGHT STRETCHcCURVED BENDbTORSO-FLOORPLANE TWISTING"),
   (0x1DA75, "bUPPER BODY TILTING FROM HIP JOINTSbLIMB COMBINATIONcLENGTH-1cLENGTH-2cLENGTH-3"),
   (0x1DA7A, "cLENGTH-4cLENGTH-5cLENGTH-6cLENGTH-7bFINGERbLOCATION-WALLPLANE SPACE"),
   (0x1DA80, "bLOCATION-FLOORPLANE SPACEbLOCATION HEIGHTcWIDTHcDEPTHcHEAD NECKcTORSO"),
   (0x1DA86, "cLIMBS DIGITSbCOMMAbFULL STOPbSEMICOLONbCOLONbPARENTHESIS"),
   (0x1DA9B, "bFILL MODIFIER-2cMODIFIER-3cMODIFIER-4cMODIFIER-5cMODIFIER-6"),
   (0x1DAA1, "bROTATION MODIFIER-2cMODIFIER-3cMODIFIER-4cMODIFIER-5cMODIFIER-6cMODIFIER-7"),
   (0x1DAA7, "cMODIFIER-8cMODIFIER-9cMODIFIER-10cMODIFIER-11cMODIFIER-12cMODIFIER-13"),
   (0x1DAAD, "cMODIFIER-14cMODIFIER-15cMODIFIER-16"),
   (0x1DF00, "aLATIN SMALL LETTER FENG DIGRAPH WITH TRILLdREVERSED SCRIPT G"),
   (0x1DF02, "bLETTER SMALL CAPITAL TURNED GbSMALL LETTER REVERSED K"),
   (0x1DF04, "bLETTER SMALL CAPITAL L WITH BELTbSMALL LETTER LEZH WITH RETROFLEX HOOK"),
   (0x1DF06, "dTURNED Y WITH BELTdREVERSED ENGdTURNED R WITH LONG LEG AND RETROFLEX HOOK"),
   (0x1DF09, "dT WITH HOOK AND RETROFLEX HOOKbLETTER RETROFLEX CLICK WITH RETROFLEX HOOK"),
   (0x1DF0B, "bSMALL LETTER ESH WITH DOUBLE BARhAND CURLdTURNED T WITH CURL"),
   (0x1DF0E, "bLETTER INVERTED GLOTTAL STOP WITH CURLcSTRETCHED C WITH CURL"),
   (0x1DF10, "cSMALL CAPITAL TURNED KbSMALL LETTER L WITH FISHHOOK"),
   (0x1DF12, "dDEZH DIGRAPH WITH PALATAL HOOKdL WITH BELT AND PALATAL HOOK"),
   (0x1DF14, "dENG WITH PALATAL HOOKdTURNED R WITH PALATAL HOOK"),
   (0x1DF16, "dR WITH FISHHOOK AND PALATAL HOOKdTESH DIGRAPH WITH PALATAL HOOK"),
   (0x1DF18, "dEZH WITH PALATAL HOOKdDEZH DIGRAPH WITH RETROFLEX HOOK"),
   (0x1DF1A, "dI WITH STROKE AND RETROFLEX HOOKdO WITH RETROFLEX HOOK"),
   (0x1DF1C, "dTESH DIGRAPH WITH RETROFLEX HOOKdC WITH RETROFLEX HOOKdS WITH CURL")]

end Scriptlet.Text.CharacterNames
