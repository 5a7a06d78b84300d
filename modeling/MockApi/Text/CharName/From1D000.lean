/-!
# Names of characters: U+1D000 to U+E01EF

* `namesFrom1D000` : runs of characters with their names, in the form that `Text.charOfName?` reads.

The names are those of Unicode 14.
-/

namespace MockApi.Text

def namesFrom1D000 : List (Nat × List String) :=
   [(0x1D000,
    ["aBYZANTINE MUSICAL SYMBOL PSILIzDASEIAzPERISPOMENIzOXEIA EKFONITIKONzOXEIA DIPLIzVAREIA EK",
     "FONITIKONzVAREIA DIPLIzKATHISTIzSYRMATIKIzPARAKLITIKIzYPOKRISISzYPOKRISIS DIPLIzKREMASTIzA",
     "PESO EKFONITIKONzEXO EKFONITIKONzTELEIAzKENTIMATAzAPOSTROFOSzAPOSTROFOS DIPLIzSYNEVMAzTHIT",
     "AzOLIGON ARCHAIONzGORGON ARCHAIONzPSILONzCHAMILONzVATHYzISON ARCHAIONzKENTIMA ARCHAIONzKEN",
     "TIMATA ARCHAIONzSAXIMATAzPARICHONzSTAVROS APODEXIAzOXEIAI ARCHAIONzVAREIAI ARCHAIONzAPODER",
     "MA ARCHAIONzAPOTHEMAzKLASMAzREVMAzPIASMA ARCHAIONzTINAGMAzANATRICHISMAzSEISMAzSYNAGMA ARCH",
     "AIONzSYNAGMA META STAVROUzOYRANISMA ARCHAIONzTHEMAzLEMOIzDYOzTRIAzTESSERAzKRATIMATAzAPESO ",
     "EXO NEOzFTHORA ARCHAIONzIMIFTHORAzTROMIKON ARCHAIONzKATAVA TROMIKONzPELASTONzPSIFISTONzKON",
     "TEVMAzCHOREVMA ARCHAIONzRAPISMAzPARAKALESMA ARCHAIONzPARAKLITIKI ARCHAIONzICHADIN"]),
    (0x1D040,
    ["aBYZANTINE MUSICAL SYMBOL NANAzPETASMAzKONTEVMA ALLOzTROMIKON ALLOzSTRAGGISMATAzGRONTHISMA",
     "TAzISON NEOzOLIGON NEOzOXEIA NEOzPETASTIzKOUFISMAzPETASTOKOUFISMAzKRATIMOKOUFISMAzPELASTON",
     " NEOzKENTIMATA NEO ANOzKENTIMA NEO ANOzYPSILIzAPOSTROFOS NEOzAPOSTROFOI SYNDESMOS NEOzYPOR",
     "ROIzKRATIMOYPORROONzELAFRONzCHAMILIzMIKRON ISONzVAREIA NEOzPIASMA NEOzPSIFISTON NEOzOMALON",
     "zANTIKENOMAzLYGISMAzPARAKLITIKI NEOzPARAKALESMA NEOzETERON PARAKALESMAzKYLISMAzANTIKENOKYL",
     "ISMAzTROMIKON NEOzEKSTREPTONzSYNAGMA NEOzSYRMAzCHOREVMA NEOzEPEGERMAzSEISMA NEOzXIRON KLAS",
     "MAzTROMIKOPSIFISTONzPSIFISTOLYGISMAzTROMIKOLYGISMAzTROMIKOPARAKALESMAzPSIFISTOPARAKALESMAz",
     "TROMIKOSYNAGMAzPSIFISTOSYNAGMAzGORGOSYNTHETONzARGOSYNTHETONzETERON ARGOSYNTHETONzOYRANISMA",
     " NEOzTHEMATISMOS ESOzTHEMATISMOS EXOzTHEMA APLOUNzTHES KAI APOTHESzKATAVASMAzENDOFONONzYFE",
     "N KATOzYFEN ANOzSTAVROSzKLASMA ANO"]),
    (0x1D080,
    ["aBYZANTINE MUSICAL SYMBOL DIPLI ARCHAIONzKRATIMA ARCHAIONzKRATIMA ALLOzKRATIMA NEOzAPODERM",
     "A NEOzAPLIzDIPLIzTRIPLIzTETRAPLIzKORONISzLEIMMA ENOS CHRONOUzLEIMMA DYO CHRONONzLEIMMA TRI",
     "ON CHRONONzLEIMMA TESSARON CHRONONzLEIMMA IMISEOS CHRONOUzGORGON NEO ANOzGORGON PARESTIGME",
     "NON ARISTERAzGORGON PARESTIGMENON DEXIAzDIGORGONzDIGORGON PARESTIGMENON ARISTERA KATOzDIGO",
     "RGON PARESTIGMENON ARISTERA ANOzDIGORGON PARESTIGMENON DEXIAzTRIGORGONzARGONzIMIDIARGONzDI",
     "ARGONzAGOGI POLI ARGIzAGOGI ARGOTERIzAGOGI ARGIzAGOGI METRIAzAGOGI MESIzAGOGI GORGIzAGOGI ",
     "GORGOTERIzAGOGI POLI GORGIzMARTYRIA PROTOS ICHOSzMARTYRIA ALLI PROTOS ICHOSzMARTYRIA DEYTE",
     "ROS ICHOSzMARTYRIA ALLI DEYTEROS ICHOSzMARTYRIA TRITOS ICHOSzMARTYRIA TRIFONIASzMARTYRIA T",
     "ETARTOS ICHOSzMARTYRIA TETARTOS LEGETOS ICHOSzMARTYRIA LEGETOS ICHOSzMARTYRIA PLAGIOS ICHO",
     "SzISAKIA TELOUS ICHIMATOSzAPOSTROFOI TELOUS ICHIMATOSzFANEROSIS TETRAFONIASzFANEROSIS MONO",
     "FONIASzFANEROSIS DIFONIASzMARTYRIA VARYS ICHOSzMARTYRIA PROTOVARYS ICHOSzMARTYRIA PLAGIOS ",
     "TETARTOS ICHOSzGORTHMIKON N APLOUNzGORTHMIKON N DIPLOUNzENARXIS KAI FTHORA VOUzIMIFONONzIM",
     "IFTHORONzFTHORA ARCHAION DEYTEROU ICHOUzFTHORA DIATONIKI PAzFTHORA DIATONIKI NANAzFTHORA N",
     "AOS ICHOSzFTHORA DIATONIKI DIzFTHORA SKLIRON DIATONON DIzFTHORA DIATONIKI KE"]),
    (0x1D0C0,
    ["aBYZANTINE MUSICAL SYMBOL FTHORA DIATONIKI ZOzFTHORA DIATONIKI NI KATOzFTHORA DIATONIKI NI",
     " ANOzFTHORA MALAKON CHROMA DIFONIASzFTHORA MALAKON CHROMA MONOFONIASzFHTORA SKLIRON CHROMA",
     " VASISzFTHORA SKLIRON CHROMA SYNAFIzFTHORA NENANOzCHROA ZYGOSzCHROA KLITONzCHROA SPATHIzFT",
     "HORA I YFESIS TETARTIMORIONzFTHORA ENARMONIOS ANTIFONIAzYFESIS TRITIMORIONzDIESIS TRITIMOR",
     "IONzDIESIS TETARTIMORIONzDIESIS APLI DYO DODEKATAzDIESIS MONOGRAMMOS TESSERA DODEKATAzDIES",
     "IS DIGRAMMOS EX DODEKATAzDIESIS TRIGRAMMOS OKTO DODEKATAzYFESIS APLI DYO DODEKATAzYFESIS M",
     "ONOGRAMMOS TESSERA DODEKATAzYFESIS DIGRAMMOS EX DODEKATAzYFESIS TRIGRAMMOS OKTO DODEKATAzG",
     "ENIKI DIESISzGENIKI YFESISzDIASTOLI APLI MIKRIzDIASTOLI APLI MEGALIzDIASTOLI DIPLIzDIASTOL",
     "I THESEOSzSIMANSIS THESEOSzSIMANSIS THESEOS DISIMOUzSIMANSIS THESEOS TRISIMOUzSIMANSIS THE",
     "SEOS TETRASIMOUzSIMANSIS ARSEOSzSIMANSIS ARSEOS DISIMOUzSIMANSIS ARSEOS TRISIMOUzSIMANSIS ",
     "ARSEOS TETRASIMOUzDIGRAMMA GGzDIFTOGGOS OUzSTIGMAzARKTIKO PAzARKTIKO VOUzARKTIKO GAzARKTIK",
     "O DIzARKTIKO KEzARKTIKO ZOzARKTIKO NIzKENTIMATA NEO MESOzKENTIMA NEO MESOzKENTIMATA NEO KA",
     "TOzKENTIMA NEO KATOzKLASMA KATOzGORGON NEO KATO"]),
    (0x1D100,
    ["aMUSICAL SYMBOL SINGLE BARLINEpDOUBLE BARLINEpFINAL BARLINEpREVERSE FINAL BARLINEpDASHED B",
     "ARLINEpSHORT BARLINEpLEFT REPEAT SIGNpRIGHT REPEAT SIGNqEPEAT DOTSpDAL SEGNOr CAPOpSEGNOpC",
     "ODApREPEATED FIGURE-1zIGURE-2zIGURE-3pFERMATAw BELOWpBREATH MARKpCAESURApBRACEtKETpONE-LIN",
     "E STAFFpTWO-LINE STAFFqHREE-LINE STAFFpFOUR-LINE STAFFqIVE-LINE STAFFpSIX-LINE STAFFtSTRIN",
     "G FRETBOARDpFOUR-STRING FRETBOARDpG CLEFv OTTAVA ALTAzAVA BASSApC CLEFpF CLEFv OTTAVA ALTA",
     "zAVA BASSApDRUM CLEF-1z2"]),
    (0x1D129,
    ["aMUSICAL SYMBOL MULTIPLE MEASURE RESTpDOUBLE SHARPwFLATpFLAT UPuDOWNpNATURAL UPxDOWNpSHARP",
     " UPvDOWNpQUARTER TONE SHARPzNE FLATpCOMMON TIMEqUT TIMEpOTTAVA ALTAwBASSApQUINDICESIMA ALT",
     "AzMA BASSApMULTI RESTpWHOLE RESTpHALF RESTpQUARTER RESTpEIGHTH RESTpSIXTEENTH RESTpTHIRTY-",
     "SECOND RESTpSIXTY-FOURTH RESTpONE HUNDRED TWENTY-EIGHTH RESTpX NOTEHEADpPLUS NOTEHEADpCIRC",
     "LE X NOTEHEADpSQUARE NOTEHEAD WHITEzEHEAD BLACKpTRIANGLE NOTEHEAD UP WHITEzOTEHEAD UP BLAC",
     "KzOTEHEAD LEFT WHITEzOTEHEAD LEFT BLACKzOTEHEAD RIGHT WHITEzOTEHEAD RIGHT BLACKzOTEHEAD DO",
     "WN WHITEzOTEHEAD DOWN BLACKzOTEHEAD UP RIGHT WHITEzOTEHEAD UP RIGHT BLACKpMOON NOTEHEAD WH",
     "ITEzEAD BLACKpTRIANGLE-ROUND NOTEHEAD DOWN WHITEzOUND NOTEHEAD DOWN BLACKpPARENTHESIS NOTE",
     "HEADpVOID NOTEHEADpNOTEHEAD BLACKqULL NOTEHEADpCLUSTER NOTEHEAD WHITEzTEHEAD BLACKpBREVEpW",
     "HOLE NOTEpHALF NOTEpQUARTER NOTEpEIGHTH NOTEpSIXTEENTH NOTEpTHIRTY-SECOND NOTEpSIXTY-FOURT",
     "H NOTEpONE HUNDRED TWENTY-EIGHTH NOTEpCOMBINING STEMzSPRECHGESANG STEMzTREMOLO-1zTREMOLO-2"]),
    (0x1D169,
    ["aMUSICAL SYMBOL COMBINING TREMOLO-3pFINGERED TREMOLO-1zREMOLO-2zREMOLO-3pCOMBINING AUGMENT",
     "ATION DOTzFLAG-1zFLAG-2zFLAG-3zFLAG-4zFLAG-5pBEGIN BEAMpEND BEAMpBEGIN TIEpEND TIEpBEGIN S",
     "LURpEND SLURpBEGIN PHRASEpEND PHRASEpCOMBINING ACCENTzSTACCATOzTENUTOzSTACCATISSIMOzMARCAT",
     "OzMARCATO-STACCATOzACCENT-STACCATOzLOUREpARPEGGIATO UPz DOWNpCOMBINING DOITzRIPzFLIPzSMEAR",
     "zBENDzDOUBLE TONGUEzTRIPLE TONGUEpRINFORZANDOpSUBITOpZpPIANOpMEZZOpFORTEpCRESCENDOpDECRESC",
     "ENDOpGRACE NOTE SLASHz NO SLASHpTRqURNpINVERTED TURNpTURN SLASHuUPpORNAMENT STROKE-1zTROKE",
     "-2zTROKE-3zTROKE-4zTROKE-5zTROKE-6zTROKE-7zTROKE-8zTROKE-9zTROKE-10zTROKE-11pHAUPTSTIMMEpN",
     "EBENSTIMMEpEND OF STIMME"]),
    (0x1D1A9,
    ["aMUSICAL SYMBOL DEGREE SLASHpCOMBINING DOWN BOWzUP BOWzHARMONICzSNAP PIZZICATOpPEDAL MARKv",
     "UP MARKpHALF PEDAL MARKpGLISSANDO UPzDOWNpWITH FINGERNAILSpDAMPt ALLpMAXIMApLONGApBREVISpS",
     "EMIBREVIS WHITEz BLACKpMINIMAv BLACKpSEMIMINIMA WHITEz BLACKpFUSA WHITEuBLACKpLONGA PERFEC",
     "TA RESTvIMPERFECTA RESTpBREVIS RESTpSEMIBREVIS RESTpMINIMA RESTpSEMIMINIMA RESTpTEMPUS PER",
     "FECTUM CUM PROLATIONE PERFECTAzFECTUM CUM PROLATIONE IMPERFECTAzFECTUM CUM PROLATIONE PERF",
     "ECTA DIMINUTION-1wIMPERFECTUM CUM PROLATIONE PERFECTAzERFECTUM CUM PROLATIONE IMPERFECTAzE",
     "RFECTUM CUM PROLATIONE IMPERFECTA DIMINUTION-1zERFECTUM CUM PROLATIONE IMPERFECTA DIMINUTI",
     "ON-2zERFECTUM CUM PROLATIONE IMPERFECTA DIMINUTION-3pCROIXpGREGORIAN C CLEFzF CLEFpSQUARE ",
     "BpVIRGApPODATUSpCLIVISpSCANDICUSpCLIMACUSpTORCULUSpPORRECTUSy FLEXUSpSCANDICUS FLEXUSpTORC",
     "ULUS RESUPINUSpPES SUBPUNCTISpKIEVAN C CLEFwEND OF PIECEwFINAL NOTEwRECITATIVE MARKwWHOLE ",
     "NOTEwHALF NOTEwQUARTER NOTE STEM DOWNzRTER NOTE STEM UPwEIGHTH NOTE STEM DOWNzHTH NOTE STE",
     "M UPwFLAT SIGN"]),
    (0x1D1E9,
    ["aMUSICAL SYMBOL SORIpKORON"]),
    (0x1D200,
    ["aGREEK VOCAL NOTATION SYMBOL-1zOL-2zOL-3zOL-4zOL-5zOL-6zOL-7zOL-8zOL-9zOL-10zOL-11zOL-12zO",
     "L-13zOL-14zOL-15zOL-16zOL-17zOL-18zOL-19zOL-20zOL-21zOL-22zOL-23zOL-24zOL-50zOL-51zOL-52zO",
     "L-53zOL-54gINSTRUMENTAL NOTATION SYMBOL-1zON SYMBOL-2zON SYMBOL-4zON SYMBOL-5zON SYMBOL-7z",
     "ON SYMBOL-8zON SYMBOL-11zON SYMBOL-12zON SYMBOL-13zON SYMBOL-14zON SYMBOL-17zON SYMBOL-18z",
     "ON SYMBOL-19zON SYMBOL-23zON SYMBOL-24zON SYMBOL-25zON SYMBOL-26zON SYMBOL-27zON SYMBOL-29",
     "zON SYMBOL-30zON SYMBOL-32zON SYMBOL-36zON SYMBOL-37zON SYMBOL-38zON SYMBOL-39zON SYMBOL-4",
     "0zON SYMBOL-42zON SYMBOL-43zON SYMBOL-45zON SYMBOL-47zON SYMBOL-48zON SYMBOL-49zON SYMBOL-",
     "50zON SYMBOL-51zON SYMBOL-52"]),
    (0x1D240,
    ["aGREEK INSTRUMENTAL NOTATION SYMBOL-53zON SYMBOL-54aCOMBINING GREEK MUSICAL TRISEMEzETRASE",
     "MEyPENTASEMEaGREEK MUSICAL LEIMMA"]),
    (0x1D2E0,
    ["aMAYAN NUMERAL ZEROoONEoTWOpHREEoFOURpIVEoSIXpEVENoEIGHToNINEoTENoELEVENoTWELVEpHIRTEENoFO",
     "URTEENpIFTEENoSIXTEENpEVENTEENoEIGHTEENoNINETEEN"]),
    (0x1D300,
    ["aMONOGRAM FOR EARTHaDIGRAM FOR HEAVENLY EARTHmUMAN EARTHlEARTHLY HEAVENuUMANqaTETRAGRAM FO",
     "R CENTREoFULL CIRCLEoMIREDoBARRIERoKEEPING SMALLoCONTRARIETYoASCENToOPPOSITIONoBRANCHING O",
     "UToDEFECTIVENESS OR DISTORTIONpIVERGENCEoYOUTHFULNESSoINCREASEoPENETRATIONoREACHoCONTACToH",
     "OLDING BACKoWAITINGoFOLLOWINGoADVANCEoRELEASEqSISTANCEoEASEoJOYoCONTENTIONoENDEAVOURoDUTIE",
     "SoCHANGEoDECISIVENESSoBOLD RESOLUTIONoPACKINGoLEGIONoCLOSENESSoKINSHIPoGATHERINGoSTRENGTHo",
     "PURITYoFULLNESSoRESIDENCEoLAW OR MODELoRESPONSEoGOING TO MEEToENCOUNTERSoSTOVEoGREATNESSoE",
     "NLARGEMENToPATTERNoRITUALoFLIGHToVASTNESS OR WASTINGoCONSTANCYoMEASUREoETERNITYoUNITYoDIMI",
     "NISHMENToCLOSED MOUTHoGUARDEDNESSpATHERING IN"]),
    (0x1D340,
    ["aTETRAGRAM FOR MASSINGoACCUMULATIONoEMBELLISHMENToDOUBToWATCHoSINKINGoINNERoDEPARTUREpARKE",
     "NINGpIMMINGoEXHAUSTIONoSEVERANCEpTOPPAGEoHARDNESSoCOMPLETIONpLOSUREoFAILUREoAGGRAVATIONoCO",
     "MPLIANCEoON THE VERGEoDIFFICULTIESoLABOURINGoFOSTERING"]),
    (0x1D360,
    ["aCOUNTING ROD UNIT DIGIT ONEyTWOzHREEyFOURzIVEySIXzEVENyEIGHTyNINEnTENS DIGIT ONEyTWOzHREE",
     "yFOURzIVEySIXzEVENyEIGHTyNINEaIDEOGRAPHIC TALLY MARK ONExTWOyHREExFOURyIVEaTALLY MARK ONEl",
     "FIVE"]),
    (0x1D400,
    ["aMATHEMATICAL BOLD CAPITAL Az Bz Cz Dz Ez Fz Gz Hz Iz Jz Kz Lz Mz Nz Oz Pz Qz Rz Sz Tz Uz ",
     "Vz Wz Xz Yz ZsSMALL AyByCyDyEyFyGyHyIyJyKyLyMyNyOyPyQyRySyTyUyVyWyXyYyZnITALIC CAPITAL AzA",
     "L BzAL CzAL DzAL EzAL FzAL GzAL HzAL IzAL JzAL KzAL L"]),
    (0x1D440,
    ["aMATHEMATICAL ITALIC CAPITAL MzAL NzAL OzAL PzAL QzAL RzAL SzAL TzAL UzAL VzAL WzAL XzAL Y",
     "zAL ZuSMALL Az Bz Cz Dz Ez Fz G"]),
    (0x1D456,
    ["aMATHEMATICAL ITALIC SMALL Iz Jz Kz Lz Mz Nz Oz Pz Qz Rz Sz Tz Uz Vz Wz Xz Yz ZnBOLD ITALI",
     "C CAPITAL AzCAPITAL BzCAPITAL CzCAPITAL DzCAPITAL EzCAPITAL FzCAPITAL GzCAPITAL HzCAPITAL ",
     "IzCAPITAL JzCAPITAL KzCAPITAL LzCAPITAL MzCAPITAL NzCAPITAL OzCAPITAL PzCAPITAL QzCAPITAL ",
     "RzCAPITAL SzCAPITAL TzCAPITAL UzCAPITAL VzCAPITAL WzCAPITAL XzCAPITAL YzCAPITAL ZzSMALL Az",
     "SMALL BzSMALL CzSMALL DzSMALL EzSMALL FzSMALL GzSMALL HzSMALL IzSMALL JzSMALL KzSMALL LzSM",
     "ALL MzSMALL NzSMALL OzSMALL PzSMALL QzSMALL RzSMALL SzSMALL T"]),
    (0x1D496,
    ["aMATHEMATICAL BOLD ITALIC SMALL UzSMALL VzSMALL WzSMALL XzSMALL YzSMALL ZnSCRIPT CAPITAL A"]),
    (0x1D49E,
    ["aMATHEMATICAL SCRIPT CAPITAL CzAL D"]),
    (0x1D4A2,
    ["aMATHEMATICAL SCRIPT CAPITAL G"]),
    (0x1D4A5,
    ["aMATHEMATICAL SCRIPT CAPITAL JzAL K"]),
    (0x1D4A9,
    ["aMATHEMATICAL SCRIPT CAPITAL NzAL OzAL PzAL Q"]),
    (0x1D4AE,
    ["aMATHEMATICAL SCRIPT CAPITAL SzAL TzAL UzAL VzAL WzAL XzAL YzAL ZuSMALL Az Bz Cz D"]),
    (0x1D4BB,
    ["aMATHEMATICAL SCRIPT SMALL F"]),
    (0x1D4BD,
    ["aMATHEMATICAL SCRIPT SMALL Hz Iz Jz Kz Lz Mz N"]),
    (0x1D4C5,
    ["aMATHEMATICAL SCRIPT SMALL Pz Qz Rz Sz Tz Uz Vz Wz Xz Yz ZnBOLD SCRIPT CAPITAL AzCAPITAL B",
     "zCAPITAL CzCAPITAL DzCAPITAL EzCAPITAL FzCAPITAL GzCAPITAL HzCAPITAL IzCAPITAL JzCAPITAL K",
     "zCAPITAL LzCAPITAL MzCAPITAL NzCAPITAL OzCAPITAL PzCAPITAL QzCAPITAL RzCAPITAL SzCAPITAL T",
     "zCAPITAL UzCAPITAL VzCAPITAL WzCAPITAL XzCAPITAL YzCAPITAL ZzSMALL AzSMALL BzSMALL CzSMALL",
     " DzSMALL EzSMALL FzSMALL GzSMALL HzSMALL IzSMALL JzSMALL KzSMALL LzSMALL MzSMALL NzSMALL O",
     "zSMALL PzSMALL QzSMALL RzSMALL SzSMALL TzSMALL UzSMALL VzSMALL WzSMALL XzSMALL YzSMALL ZnF",
     "RAKTUR CAPITAL A"]),
    (0x1D505,
    ["aMATHEMATICAL FRAKTUR CAPITAL B"]),
    (0x1D507,
    ["aMATHEMATICAL FRAKTUR CAPITAL DzTAL EzTAL FzTAL G"]),
    (0x1D50D,
    ["aMATHEMATICAL FRAKTUR CAPITAL JzTAL KzTAL LzTAL MzTAL NzTAL OzTAL PzTAL Q"]),
    (0x1D516,
    ["aMATHEMATICAL FRAKTUR CAPITAL SzTAL TzTAL UzTAL VzTAL WzTAL XzTAL Y"]),
    (0x1D51E,
    ["aMATHEMATICAL FRAKTUR SMALL AzL BzL CzL DzL EzL FzL GzL HzL IzL JzL KzL LzL MzL NzL OzL Pz",
     "L QzL RzL SzL TzL UzL VzL WzL XzL YzL ZnDOUBLE-STRUCK CAPITAL AzK CAPITAL B"]),
    (0x1D53B,
    ["aMATHEMATICAL DOUBLE-STRUCK CAPITAL DzK CAPITAL EzK CAPITAL FzK CAPITAL G"]),
    (0x1D540,
    ["aMATHEMATICAL DOUBLE-STRUCK CAPITAL IzK CAPITAL JzK CAPITAL KzK CAPITAL LzK CAPITAL M"]),
    (0x1D546,
    ["aMATHEMATICAL DOUBLE-STRUCK CAPITAL O"]),
    (0x1D54A,
    ["aMATHEMATICAL DOUBLE-STRUCK CAPITAL SzK CAPITAL TzK CAPITAL UzK CAPITAL VzK CAPITAL WzK CA",
     "PITAL XzK CAPITAL Y"]),
    (0x1D552,
    ["aMATHEMATICAL DOUBLE-STRUCK SMALL AzK SMALL BzK SMALL CzK SMALL DzK SMALL EzK SMALL FzK SM",
     "ALL GzK SMALL HzK SMALL IzK SMALL JzK SMALL KzK SMALL LzK SMALL MzK SMALL NzK SMALL OzK SM",
     "ALL PzK SMALL QzK SMALL RzK SMALL SzK SMALL TzK SMALL UzK SMALL VzK SMALL WzK SMALL XzK SM",
     "ALL YzK SMALL ZnBOLD FRAKTUR CAPITAL Az CAPITAL Bz CAPITAL Cz CAPITAL Dz CAPITAL Ez CAPITA",
     "L Fz CAPITAL Gz CAPITAL Hz CAPITAL Iz CAPITAL Jz CAPITAL Kz CAPITAL Lz CAPITAL Mz CAPITAL ",
     "Nz CAPITAL Oz CAPITAL Pz CAPITAL Qz CAPITAL Rz CAPITAL Sz CAPITAL Tz CAPITAL Uz CAPITAL Vz",
     " CAPITAL Wz CAPITAL Xz CAPITAL Yz CAPITAL Zz SMALL Az SMALL Bz SMALL Cz SMALL Dz SMALL Ez ",
     "SMALL Fz SMALL Gz SMALL Hz SMALL Iz SMALL Jz SMALL Kz SMALL L"]),
    (0x1D592,
    ["aMATHEMATICAL BOLD FRAKTUR SMALL Mz SMALL Nz SMALL Oz SMALL Pz SMALL Qz SMALL Rz SMALL Sz ",
     "SMALL Tz SMALL Uz SMALL Vz SMALL Wz SMALL Xz SMALL Yz SMALL ZnSANS-SERIF CAPITAL AzAPITAL ",
     "BzAPITAL CzAPITAL DzAPITAL EzAPITAL FzAPITAL GzAPITAL HzAPITAL IzAPITAL JzAPITAL KzAPITAL ",
     "LzAPITAL MzAPITAL NzAPITAL OzAPITAL PzAPITAL QzAPITAL RzAPITAL SzAPITAL TzAPITAL UzAPITAL ",
     "VzAPITAL WzAPITAL XzAPITAL YzAPITAL ZySMALL AzMALL BzMALL CzMALL DzMALL EzMALL FzMALL GzMA",
     "LL HzMALL IzMALL JzMALL KzMALL LzMALL MzMALL NzMALL OzMALL PzMALL QzMALL RzMALL SzMALL TzM",
     "ALL UzMALL VzMALL WzMALL X"]),
    (0x1D5D2,
    ["aMATHEMATICAL SANS-SERIF SMALL YzMALL ZyBOLD CAPITAL AzOLD CAPITAL BzOLD CAPITAL CzOLD CAP",
     "ITAL DzOLD CAPITAL EzOLD CAPITAL FzOLD CAPITAL GzOLD CAPITAL HzOLD CAPITAL IzOLD CAPITAL J",
     "zOLD CAPITAL KzOLD CAPITAL LzOLD CAPITAL MzOLD CAPITAL NzOLD CAPITAL OzOLD CAPITAL PzOLD C",
     "APITAL QzOLD CAPITAL RzOLD CAPITAL SzOLD CAPITAL TzOLD CAPITAL UzOLD CAPITAL VzOLD CAPITAL",
     " WzOLD CAPITAL XzOLD CAPITAL YzOLD CAPITAL ZzOLD SMALL AzOLD SMALL BzOLD SMALL CzOLD SMALL",
     " DzOLD SMALL EzOLD SMALL FzOLD SMALL GzOLD SMALL HzOLD SMALL IzOLD SMALL JzOLD SMALL KzOLD",
     " SMALL LzOLD SMALL MzOLD SMALL NzOLD SMALL OzOLD SMALL PzOLD SMALL QzOLD SMALL RzOLD SMALL",
     " SzOLD SMALL TzOLD SMALL UzOLD SMALL VzOLD SMALL WzOLD SMALL XzOLD SMALL YzOLD SMALL ZyITA",
     "LIC CAPITAL AzTALIC CAPITAL BzTALIC CAPITAL CzTALIC CAPITAL DzTALIC CAPITAL EzTALIC CAPITA",
     "L FzTALIC CAPITAL GzTALIC CAPITAL HzTALIC CAPITAL IzTALIC CAPITAL J"]),
    (0x1D612,
    ["aMATHEMATICAL SANS-SERIF ITALIC CAPITAL KzTALIC CAPITAL LzTALIC CAPITAL MzTALIC CAPITAL Nz",
     "TALIC CAPITAL OzTALIC CAPITAL PzTALIC CAPITAL QzTALIC CAPITAL RzTALIC CAPITAL SzTALIC CAPI",
     "TAL TzTALIC CAPITAL UzTALIC CAPITAL VzTALIC CAPITAL WzTALIC CAPITAL XzTALIC CAPITAL YzTALI",
     "C CAPITAL ZzTALIC SMALL AzTALIC SMALL BzTALIC SMALL CzTALIC SMALL DzTALIC SMALL EzTALIC SM",
     "ALL FzTALIC SMALL GzTALIC SMALL HzTALIC SMALL IzTALIC SMALL JzTALIC SMALL KzTALIC SMALL Lz",
     "TALIC SMALL MzTALIC SMALL NzTALIC SMALL OzTALIC SMALL PzTALIC SMALL QzTALIC SMALL RzTALIC ",
     "SMALL SzTALIC SMALL TzTALIC SMALL UzTALIC SMALL VzTALIC SMALL WzTALIC SMALL XzTALIC SMALL ",
     "YzTALIC SMALL ZyBOLD ITALIC CAPITAL AzOLD ITALIC CAPITAL BzOLD ITALIC CAPITAL CzOLD ITALIC",
     " CAPITAL DzOLD ITALIC CAPITAL EzOLD ITALIC CAPITAL FzOLD ITALIC CAPITAL GzOLD ITALIC CAPIT",
     "AL HzOLD ITALIC CAPITAL IzOLD ITALIC CAPITAL JzOLD ITALIC CAPITAL KzOLD ITALIC CAPITAL LzO",
     "LD ITALIC CAPITAL MzOLD ITALIC CAPITAL NzOLD ITALIC CAPITAL OzOLD ITALIC CAPITAL PzOLD ITA",
     "LIC CAPITAL QzOLD ITALIC CAPITAL RzOLD ITALIC CAPITAL SzOLD ITALIC CAPITAL TzOLD ITALIC CA",
     "PITAL UzOLD ITALIC CAPITAL V"]),
    (0x1D652,
    ["aMATHEMATICAL SANS-SERIF BOLD ITALIC CAPITAL WzOLD ITALIC CAPITAL XzOLD ITALIC CAPITAL YzO",
     "LD ITALIC CAPITAL ZzOLD ITALIC SMALL AzOLD ITALIC SMALL BzOLD ITALIC SMALL CzOLD ITALIC SM",
     "ALL DzOLD ITALIC SMALL EzOLD ITALIC SMALL FzOLD ITALIC SMALL GzOLD ITALIC SMALL HzOLD ITAL",
     "IC SMALL IzOLD ITALIC SMALL JzOLD ITALIC SMALL KzOLD ITALIC SMALL LzOLD ITALIC SMALL MzOLD",
     " ITALIC SMALL NzOLD ITALIC SMALL OzOLD ITALIC SMALL PzOLD ITALIC SMALL QzOLD ITALIC SMALL ",
     "RzOLD ITALIC SMALL SzOLD ITALIC SMALL TzOLD ITALIC SMALL UzOLD ITALIC SMALL VzOLD ITALIC S",
     "MALL WzOLD ITALIC SMALL XzOLD ITALIC SMALL YzOLD ITALIC SMALL ZnMONOSPACE CAPITAL AzPITAL ",
     "BzPITAL CzPITAL DzPITAL EzPITAL FzPITAL GzPITAL HzPITAL IzPITAL JzPITAL KzPITAL LzPITAL Mz",
     "PITAL NzPITAL OzPITAL PzPITAL QzPITAL RzPITAL SzPITAL TzPITAL UzPITAL VzPITAL WzPITAL XzPI",
     "TAL YzPITAL ZxSMALL AzALL BzALL CzALL DzALL EzALL FzALL GzALL H"]),
    (0x1D692,
    ["aMATHEMATICAL MONOSPACE SMALL IzALL JzALL KzALL LzALL MzALL NzALL OzALL PzALL QzALL RzALL ",
     "SzALL TzALL UzALL VzALL WzALL XzALL YzALL ZnITALIC SMALL DOTLESS Iz DOTLESS J"]),
    (0x1D6A8,
    ["aMATHEMATICAL BOLD CAPITAL ALPHAz BETAz GAMMAz DELTAz EPSILONz ZETAz ETAz THETAz IOTAz KAP",
     "PAz LAMDAz MUz NUz XIz OMICRONz PIz RHOz THETA SYMBOLz SIGMAz TAUz UPSILONz PHIz CHIz PSIz",
     " OMEGAsNABLAsSMALL ALPHAyBETAyGAMMAyDELTAyEPSILONyZETAyETAyTHETAyIOTAyKAPPAyLAMDAyMUyNUyXI",
     "yOMICRONyPIyRHOyFINAL SIGMAySIGMAyTAUyUPSILONyPHIyCHIyPSIyOMEGAsPARTIAL DIFFERENTIALsEPSIL",
     "ON SYMBOLsTHETA SYMBOLsKAPPA SYMBOLsPHI SYMBOLsRHO SYMBOLsPI SYMBOLnITALIC CAPITAL ALPHAzA",
     "L BETAzAL GAMMAzAL DELTAzAL EPSILONzAL ZETA"]),
    (0x1D6E8,
    ["aMATHEMATICAL ITALIC CAPITAL ETAzAL THETAzAL IOTAzAL KAPPAzAL LAMDAzAL MUzAL NUzAL XIzAL O",
     "MICRONzAL PIzAL RHOzAL THETA SYMBOLzAL SIGMAzAL TAUzAL UPSILONzAL PHIzAL CHIzAL PSIzAL OME",
     "GAuNABLAuSMALL ALPHAz BETAz GAMMAz DELTAz EPSILONz ZETAz ETAz THETAz IOTAz KAPPAz LAMDAz M",
     "Uz NUz XIz OMICRONz PIz RHOz FINAL SIGMAz SIGMAz TAUz UPSILONz PHIz CHIz PSIz OMEGAuPARTIA",
     "L DIFFERENTIALuEPSILON SYMBOLuTHETA SYMBOLuKAPPA SYMBOLuPHI SYMBOLuRHO SYMBOLuPI SYMBOLnBO",
     "LD ITALIC CAPITAL ALPHAzCAPITAL BETAzCAPITAL GAMMAzCAPITAL DELTAzCAPITAL EPSILONzCAPITAL Z",
     "ETAzCAPITAL ETAzCAPITAL THETAzCAPITAL IOTAzCAPITAL KAPPAzCAPITAL LAMDAzCAPITAL MU"]),
    (0x1D728,
    ["aMATHEMATICAL BOLD ITALIC CAPITAL NUzCAPITAL XIzCAPITAL OMICRONzCAPITAL PIzCAPITAL RHOzCAP",
     "ITAL THETA SYMBOLzCAPITAL SIGMAzCAPITAL TAUzCAPITAL UPSILONzCAPITAL PHIzCAPITAL CHIzCAPITA",
     "L PSIzCAPITAL OMEGAzNABLAzSMALL ALPHAzSMALL BETAzSMALL GAMMAzSMALL DELTAzSMALL EPSILONzSMA",
     "LL ZETAzSMALL ETAzSMALL THETAzSMALL IOTAzSMALL KAPPAzSMALL LAMDAzSMALL MUzSMALL NUzSMALL X",
     "IzSMALL OMICRONzSMALL PIzSMALL RHOzSMALL FINAL SIGMAzSMALL SIGMAzSMALL TAUzSMALL UPSILONzS",
     "MALL PHIzSMALL CHIzSMALL PSIzSMALL OMEGAzPARTIAL DIFFERENTIALzEPSILON SYMBOLzTHETA SYMBOLz",
     "KAPPA SYMBOLzPHI SYMBOLzRHO SYMBOLzPI SYMBOLnSANS-SERIF BOLD CAPITAL ALPHAzOLD CAPITAL BET",
     "AzOLD CAPITAL GAMMAzOLD CAPITAL DELTAzOLD CAPITAL EPSILONzOLD CAPITAL ZETAzOLD CAPITAL ETA",
     "zOLD CAPITAL THETAzOLD CAPITAL IOTAzOLD CAPITAL KAPPAzOLD CAPITAL LAMDAzOLD CAPITAL MUzOLD",
     " CAPITAL NUzOLD CAPITAL XIzOLD CAPITAL OMICRONzOLD CAPITAL PIzOLD CAPITAL RHOzOLD CAPITAL ",
     "THETA SYMBOL"]),
    (0x1D768,
    ["aMATHEMATICAL SANS-SERIF BOLD CAPITAL SIGMAzOLD CAPITAL TAUzOLD CAPITAL UPSILONzOLD CAPITA",
     "L PHIzOLD CAPITAL CHIzOLD CAPITAL PSIzOLD CAPITAL OMEGAzOLD NABLAzOLD SMALL ALPHAzOLD SMAL",
     "L BETAzOLD SMALL GAMMAzOLD SMALL DELTAzOLD SMALL EPSILONzOLD SMALL ZETAzOLD SMALL ETAzOLD ",
     "SMALL THETAzOLD SMALL IOTAzOLD SMALL KAPPAzOLD SMALL LAMDAzOLD SMALL MUzOLD SMALL NUzOLD S",
     "MALL XIzOLD SMALL OMICRONzOLD SMALL PIzOLD SMALL RHOzOLD SMALL FINAL SIGMAzOLD SMALL SIGMA",
     "zOLD SMALL TAUzOLD SMALL UPSILONzOLD SMALL PHIzOLD SMALL CHIzOLD SMALL PSIzOLD SMALL OMEGA",
     "zOLD PARTIAL DIFFERENTIALzOLD EPSILON SYMBOLzOLD THETA SYMBOLzOLD KAPPA SYMBOLzOLD PHI SYM",
     "BOLzOLD RHO SYMBOLzOLD PI SYMBOLzOLD ITALIC CAPITAL ALPHAzOLD ITALIC CAPITAL BETAzOLD ITAL",
     "IC CAPITAL GAMMAzOLD ITALIC CAPITAL DELTAzOLD ITALIC CAPITAL EPSILONzOLD ITALIC CAPITAL ZE",
     "TAzOLD ITALIC CAPITAL ETAzOLD ITALIC CAPITAL THETAzOLD ITALIC CAPITAL IOTAzOLD ITALIC CAPI",
     "TAL KAPPAzOLD ITALIC CAPITAL LAMDAzOLD ITALIC CAPITAL MUzOLD ITALIC CAPITAL NUzOLD ITALIC ",
     "CAPITAL XIzOLD ITALIC CAPITAL OMICRONzOLD ITALIC CAPITAL PIzOLD ITALIC CAPITAL RHOzOLD ITA",
     "LIC CAPITAL THETA SYMBOLzOLD ITALIC CAPITAL SIGMAzOLD ITALIC CAPITAL TAUzOLD ITALIC CAPITA",
     "L UPSILONzOLD ITALIC CAPITAL PHIzOLD ITALIC CAPITAL CHIzOLD ITALIC CAPITAL PSI"]),
    (0x1D7A8,
    ["aMATHEMATICAL SANS-SERIF BOLD ITALIC CAPITAL OMEGAzOLD ITALIC NABLAzOLD ITALIC SMALL ALPHA",
     "zOLD ITALIC SMALL BETAzOLD ITALIC SMALL GAMMAzOLD ITALIC SMALL DELTAzOLD ITALIC SMALL EPSI",
     "LONzOLD ITALIC SMALL ZETAzOLD ITALIC SMALL ETAzOLD ITALIC SMALL THETAzOLD ITALIC SMALL IOT",
     "AzOLD ITALIC SMALL KAPPAzOLD ITALIC SMALL LAMDAzOLD ITALIC SMALL MUzOLD ITALIC SMALL NUzOL",
     "D ITALIC SMALL XIzOLD ITALIC SMALL OMICRONzOLD ITALIC SMALL PIzOLD ITALIC SMALL RHOzOLD IT",
     "ALIC SMALL FINAL SIGMAzOLD ITALIC SMALL SIGMAzOLD ITALIC SMALL TAUzOLD ITALIC SMALL UPSILO",
     "NzOLD ITALIC SMALL PHIzOLD ITALIC SMALL CHIzOLD ITALIC SMALL PSIzOLD ITALIC SMALL OMEGAzOL",
     "D ITALIC PARTIAL DIFFERENTIALzOLD ITALIC EPSILON SYMBOLzOLD ITALIC THETA SYMBOLzOLD ITALIC",
     " KAPPA SYMBOLzOLD ITALIC PHI SYMBOLzOLD ITALIC RHO SYMBOLzOLD ITALIC PI SYMBOLnBOLD CAPITA",
     "L DIGAMMAsSMALL DIGAMMA"]),
    (0x1D7CE,
    ["aMATHEMATICAL BOLD DIGIT ZEROyONEyTWOzHREEyFOURzIVEySIXzEVENyEIGHTyNINEnDOUBLE-STRUCK DIGI",
     "T ZEROzK DIGIT ONEzK DIGIT TWOzK DIGIT THREEzK DIGIT FOURzK DIGIT FIVEzK DIGIT SIXzK DIGIT",
     " SEVENzK DIGIT EIGHTzK DIGIT NINEnSANS-SERIF DIGIT ZEROzIGIT ONEzIGIT TWOzIGIT THREEzIGIT ",
     "FOURzIGIT FIVEzIGIT SIXzIGIT SEVENzIGIT EIGHTzIGIT NINEyBOLD DIGIT ZEROzOLD DIGIT ONEzOLD ",
     "DIGIT TWOzOLD DIGIT THREEzOLD DIGIT FOURzOLD DIGIT FIVEzOLD DIGIT SIXzOLD DIGIT SEVENzOLD ",
     "DIGIT EIGHTzOLD DIGIT NINEnMONOSPACE DIGIT ZEROzGIT ONEzGIT TWOzGIT THREEzGIT FOURzGIT FIV",
     "EzGIT SIXzGIT SEVENzGIT EIGHTzGIT NINEaSIGNWRITING HAND-FIST INDEXrCIRCLE INDEXsUP INDEXrO",
     "VAL INDEXrHINGE INDEXrANGLE INDEXrFIST INDEX BENTrCIRCLE INDEX BENTrFIST THUMB UNDER INDEX",
     " BENTwINDEX RAISED KNUCKLEzEX CUPPEDzEX HINGEDzEX HINGED LOWrCIRCLE INDEX HINGE"]),
    (0x1D80E,
    ["aSIGNWRITING HAND-FIST INDEX MIDDLErCIRCLE INDEX MIDDLErFIST INDEX MIDDLE BENTzEX MIDDLE R",
     "AISED KNUCKLESzEX MIDDLE HINGEDzEX UP MIDDLE HINGEDzEX HINGED MIDDLE UPzEX MIDDLE CONJOINE",
     "DzEX MIDDLE CONJOINED INDEX BENTzEX MIDDLE CONJOINED MIDDLE BENTzEX MIDDLE CONJOINED CUPPE",
     "DzEX MIDDLE CONJOINED HINGEDzEX MIDDLE CROSSEDrCIRCLE INDEX MIDDLE CROSSEDrFIST MIDDLE BEN",
     "T OVER INDEXwINDEX BENT OVER MIDDLEzEX MIDDLE THUMBrCIRCLE INDEX MIDDLE THUMBrFIST INDEX M",
     "IDDLE STRAIGHT THUMB BENTzEX MIDDLE BENT THUMB STRAIGHTzEX MIDDLE THUMB BENTzEX MIDDLE HIN",
     "GED SPREAD THUMB SIDEzEX UP MIDDLE HINGED THUMB SIDEzEX UP MIDDLE HINGED THUMB CONJOINEDzE",
     "X HINGED MIDDLE UP THUMB SIDEzEX MIDDLE UP SPREAD THUMB FORWARDzEX MIDDLE THUMB CUPPEDzEX ",
     "MIDDLE THUMB CIRCLEDzEX MIDDLE THUMB HOOKEDzEX MIDDLE THUMB HINGEDwTHUMB BETWEEN INDEX MID",
     "DLE STRAIGHTwINDEX MIDDLE CONJOINED THUMB SIDEzEX MIDDLE CONJOINED THUMB SIDE CONJOINEDzEX",
     " MIDDLE CONJOINED THUMB SIDE BENTwMIDDLE THUMB HOOKED INDEX UPwINDEX THUMB HOOKED MIDDLE U",
     "PzEX MIDDLE CONJOINED HINGED THUMB SIDEzEX MIDDLE CROSSED THUMB SIDEzEX MIDDLE CONJOINED T",
     "HUMB FORWARDzEX MIDDLE CONJOINED CUPPED THUMB FORWARDwMIDDLE THUMB CUPPED INDEX UPwINDEX T",
     "HUMB CUPPED MIDDLE UPwMIDDLE THUMB CIRCLED INDEX UPzDLE THUMB CIRCLED INDEX HINGEDwINDEX T",
     "HUMB ANGLED OUT MIDDLE UPzEX THUMB ANGLED IN MIDDLE UPzEX THUMB CIRCLED MIDDLE UPzEX MIDDL",
     "E THUMB CONJOINED HINGEDzEX MIDDLE THUMB ANGLED OUTzEX MIDDLE THUMB ANGLEDwMIDDLE THUMB AN",
     "GLED OUT INDEX UPzDLE THUMB ANGLED OUT INDEX CROSSEDzDLE THUMB ANGLED INDEX UPwINDEX THUMB",
     " HOOKED MIDDLE HINGEDsLAT FOUR FINGERSzR FINGERS BENTzR FINGERS HINGEDzR FINGERS CONJOINED",
     "zR FINGERS CONJOINED SPLITrCLAW FOUR FINGERS CONJOINEDrFIST FOUR FINGERS CONJOINED BENTrHI",
     "NGE FOUR FINGERS CONJOINEDrFLAT FIVE FINGERS SPREADwHEEL FIVE FINGERS SPREAD"]),
    (0x1D84E,
    ["aSIGNWRITING HAND-FLAT FIVE FINGERS SPREAD FOUR BENTwHEEL FIVE FINGERS SPREAD FOUR BENTwFI",
     "VE FINGERS SPREAD BENTwHEEL FIVE FINGERS SPREAD BENTwFIVE FINGERS SPREAD THUMB FORWARDrCUP",
     " FIVE FINGERS SPREADz FINGERS SPREAD OPENrHINGE FIVE FINGERS SPREAD OPENrOVAL FIVE FINGERS",
     " SPREADrFLAT FIVE FINGERS SPREAD HINGEDzE FINGERS SPREAD HINGED THUMB SIDEzE FINGERS SPREA",
     "D HINGED NO THUMBvv BETWEEN PALM FACINGSwHEELwTHUMB SIDEwHEEL THUMB SIDEwTHUMB BENTzMB FOR",
     "WARDwSPLIT INDEX THUMB SIDEzIT CENTREzIT CENTRE THUMB SIDEzIT CENTRE THUMB SIDE BENTzIT LI",
     "TTLErCLAWv THUMB SIDEwNO THUMBwTHUMB FORWARDrHOOK CURLICUEvrCUP OPENuu OPEN THUMB SIDEvTHU",
     "MB SIDEvOPEN NO THUMBvNO THUMBvOPEN THUMB FORWARDvTHUMB FORWARDtRLICUE OPENzsIRCLErOVALv T",
     "HUMB SIDEwNO THUMBwTHUMB FORWARDrHINGE OPENzEN THUMB FORWARDww SMALLxOPEN THUMB SIDExTHUMB",
     " SIDExOPEN NO THUMBxNO THUMBxTHUMB SIDE TOUCHING INDEXzUMB BETWEEN MIDDLE RINGrANGLErFIST ",
     "INDEX MIDDLE RINGrCIRCLE INDEX MIDDLE RINGrHINGE INDEX MIDDLE RINGrANGLE INDEX MIDDLE RING",
     "rHINGE LITTLErFIST INDEX MIDDLE RING BENTzEX MIDDLE RING CONJOINEDrHINGE INDEX MIDDLE RING",
     " CONJOINED"]),
    (0x1D88E,
    ["aSIGNWRITING HAND-FIST LITTLE DOWNzTLE DOWN RIPPLE STRAIGHTzTLE DOWN RIPPLE CURVEDzTLE DOW",
     "N OTHERS CIRCLEDzTLE UPwTHUMB UNDER LITTLE UPrCIRCLE LITTLE UPrOVAL LITTLE UPrANGLE LITTLE",
     " UPrFIST LITTLE RAISED KNUCKLEzTLE BENTzTLE TOUCHES THUMBzTLE THUMBrHINGE LITTLE THUMBrFIS",
     "T LITTLE INDEX THUMBrHINGE LITTLE INDEX THUMBrANGLE LITTLE INDEX THUMB INDEX THUMB OUTzTTL",
     "E INDEX THUMB INDEX THUMBrFIST LITTLE INDEXrCIRCLE LITTLE INDEXrHINGE LITTLE INDEXrANGLE L",
     "ITTLE INDEXrFIST INDEX MIDDLE LITTLErCIRCLE INDEX MIDDLE LITTLErHINGE INDEX MIDDLE LITTLEx",
     "RINGrANGLE INDEX MIDDLE LITTLErFIST INDEX MIDDLE CROSS LITTLErCIRCLE INDEX MIDDLE CROSS LI",
     "TTLErFIST RING DOWNrHINGE RING DOWN INDEX THUMB HOOK MIDDLErANGLE RING DOWN MIDDLE THUMB I",
     "NDEX CROSSrFIST RING UPzG RAISED KNUCKLEzG LITTLErCIRCLE RING LITTLErOVAL RING LITTLErANGL",
     "E RING LITTLErFIST RING MIDDLEzG MIDDLE CONJOINEDzG MIDDLE RAISED KNUCKLESzG INDEXzG THUMB",
     "rHOOK RING THUMBrFIST INDEX RING LITTLErCIRCLE INDEX RING LITTLEsURLICUE INDEX RING LITTLE",
     " ONrHOOK INDEX RING LITTLE OUTzEX RING LITTLE INzEX RING LITTLE UNDERrCUP INDEX RING LITTL",
     "ErHINGE INDEX RING LITTLErANGLE INDEX RING LITTLE OUTzDEX RING LITTLErFIST MIDDLE DOWNrHIN",
     "GE MIDDLErFIST MIDDLE UPrCIRCLE MIDDLE UPrFIST MIDDLE RAISED KNUCKLEzDLE UP THUMB SIDErHOO",
     "K MIDDLE THUMBrFIST MIDDLE THUMB LITTLEzDLE LITTLEzDLE RING LITTLE"]),
    (0x1D8CE,
    ["aSIGNWRITING HAND-CIRCLE MIDDLE RING LITTLEsURLICUE MIDDLE RING LITTLE ONtP MIDDLE RING LI",
     "TTLErHINGE MIDDLE RING LITTLErANGLE MIDDLE RING LITTLE OUTzDDLE RING LITTLE INzDDLE RING L",
     "ITTLErCIRCLE MIDDLE RING LITTLE BENTsLAW MIDDLE RING LITTLE CONJOINEDzDLE RING LITTLE CONJ",
     "OINED SIDErHOOK MIDDLE RING LITTLE CONJOINED OUTzDLE RING LITTLE CONJOINED INzDLE RING LIT",
     "TLE CONJOINEDsINGE INDEX HINGEDrFIST INDEX THUMB SIDErHINGE INDEX THUMB SIDErFIST INDEX TH",
     "UMB SIDE THUMB DIAGONALzEX THUMB SIDE THUMB CONJOINEDzEX THUMB SIDE THUMB BENTzEX THUMB SI",
     "DE INDEX BENTzEX THUMB SIDE BOTH BENTzEX THUMB SIDE INDEX HINGEzEX THUMB FORWARD INDEX STR",
     "AIGHTzEX THUMB FORWARD INDEX BENTzEX THUMB HOOKzEX THUMB CURLICUEzEX THUMB CURVE THUMB INS",
     "IDErCLAW INDEX THUMB CURVE THUMB INSIDErFIST INDEX THUMB CURVE THUMB UNDERzEX THUMB CIRCLE",
     "rCUP INDEX THUMBzX THUMB OPENrHINGE INDEX THUMB OPENzDEX THUMB LARGEzDEX THUMBzDEX THUMB S",
     "MALLrANGLE INDEX THUMB OUTzDEX THUMB INzDEX THUMBrFIST THUMBzMB HEELzMB SIDE DIAGONALzMB S",
     "IDE CONJOINEDzMB SIDE BENTzMB FORWARDzMB BETWEEN INDEX MIDDLEzMB BETWEEN MIDDLE RINGzMB BE",
     "TWEEN RING LITTLEzMB UNDER TWO FINGERSzMB OVER TWO FINGERSzMB UNDER THREE FINGERSzMB UNDER",
     " FOUR FINGERSzMB OVER FOUR RAISED KNUCKLESvv HEELmTOUCH SINGLEsMULTIPLEsBETWEENmGRASP SING",
     "LEsMULTIPLEsBETWEENmSTRIKE SINGLEtMULTIPLEtBETWEEN"]),
    (0x1D90E,
    ["aSIGNWRITING BRUSH SINGLEsMULTIPLEsBETWEENmRUB SINGLEqMULTIPLEqBETWEENmSURFACE SYMBOLSuBET",
     "WEENnQUEEZE LARGE SINGLEuSMALL SINGLEuLARGE MULTIPLEuSMALL MULTIPLEvEQUENTIALmFLICK LARGE ",
     "SINGLEsSMALL SINGLEsLARGE MULTIPLEsSMALL MULTIPLEtEQUENTIALmSQUEEZE FLICK ALTERNATINGmMOVE",
     "MENT-HINGE UP DOWN LARGEzE UP DOWN SMALLzE UP SEQUENTIALzE DOWN SEQUENTIALzE UP DOWN ALTER",
     "NATING LARGEzE UP DOWN ALTERNATING SMALLzE SIDE TO SIDE SCISSORSvWALLPLANE FINGER CONTACTv",
     "FLOORPLANE FINGER CONTACTvWALLPLANE SINGLE STRAIGHT SMALLzPLANE SINGLE STRAIGHT MEDIUMzPLA",
     "NE SINGLE STRAIGHT LARGEzPLANE SINGLE STRAIGHT LARGESTzPLANE SINGLE WRIST FLEXzPLANE DOUBL",
     "E STRAIGHTzPLANE DOUBLE WRIST FLEXzPLANE DOUBLE ALTERNATINGzPLANE DOUBLE ALTERNATING WRIST",
     " FLEXzPLANE CROSSzPLANE TRIPLE STRAIGHT MOVEMENTzPLANE TRIPLE WRIST FLEXzPLANE TRIPLE ALTE",
     "RNATINGzPLANE TRIPLE ALTERNATING WRIST FLEXzPLANE BEND SMALLzPLANE BEND MEDIUMzPLANE BEND ",
     "LARGEzPLANE CORNER SMALLzPLANE CORNER MEDIUMzPLANE CORNER LARGEzPLANE CORNER ROTATIONzPLAN",
     "E CHECK SMALLzPLANE CHECK MEDIUMzPLANE CHECK LARGEzPLANE BOX SMALLzPLANE BOX MEDIUMzPLANE ",
     "BOX LARGEzPLANE ZIGZAG SMALLzPLANE ZIGZAG MEDIUMzPLANE ZIGZAG LARGEzPLANE PEAKS SMALLzPLAN",
     "E PEAKS MEDIUMzPLANE PEAKS LARGEmTRAVEL-WALLPLANE ROTATION-WALLPLANE SINGLEzANE ROTATION-W",
     "ALLPLANE DOUBLEzANE ROTATION-WALLPLANE ALTERNATING"]),
    (0x1D94E,
    ["aSIGNWRITING TRAVEL-WALLPLANE ROTATION-FLOORPLANE SINGLEzANE ROTATION-FLOORPLANE DOUBLEzAN",
     "E ROTATION-FLOORPLANE ALTERNATINGzANE SHAKINGzANE ARM SPIRAL SINGLEzANE ARM SPIRAL DOUBLEz",
     "ANE ARM SPIRAL TRIPLEmMOVEMENT-DIAGONAL AWAY SMALLzONAL AWAY MEDIUMzONAL AWAY LARGEzONAL A",
     "WAY LARGESTzONAL TOWARDS SMALLzONAL TOWARDS MEDIUMzONAL TOWARDS LARGEzONAL TOWARDS LARGEST",
     "zONAL BETWEEN AWAY SMALLzONAL BETWEEN AWAY MEDIUMzONAL BETWEEN AWAY LARGEzONAL BETWEEN AWA",
     "Y LARGESTzONAL BETWEEN TOWARDS SMALLzONAL BETWEEN TOWARDS MEDIUMzONAL BETWEEN TOWARDS LARG",
     "EzONAL BETWEEN TOWARDS LARGESTvFLOORPLANE SINGLE STRAIGHT SMALLzRPLANE SINGLE STRAIGHT MED",
     "IUMzRPLANE SINGLE STRAIGHT LARGEzRPLANE SINGLE STRAIGHT LARGESTzRPLANE SINGLE WRIST FLEXzR",
     "PLANE DOUBLE STRAIGHTzRPLANE DOUBLE WRIST FLEXzRPLANE DOUBLE ALTERNATINGzRPLANE DOUBLE ALT",
     "ERNATING WRIST FLEXzRPLANE CROSSzRPLANE TRIPLE STRAIGHT MOVEMENTzRPLANE TRIPLE WRIST FLEXz",
     "RPLANE TRIPLE ALTERNATING MOVEMENTzRPLANE TRIPLE ALTERNATING WRIST FLEXzRPLANE BENDzRPLANE",
     " CORNER SMALLzRPLANE CORNER MEDIUMzRPLANE CORNER LARGEzRPLANE CHECKzRPLANE BOX SMALLzRPLAN",
     "E BOX MEDIUMzRPLANE BOX LARGEzRPLANE ZIGZAG SMALLzRPLANE ZIGZAG MEDIUMzRPLANE ZIGZAG LARGE",
     "zRPLANE PEAKS SMALLzRPLANE PEAKS MEDIUMzRPLANE PEAKS LARGEmTRAVEL-FLOORPLANE ROTATION-FLOO",
     "RPLANE SINGLEzLANE ROTATION-FLOORPLANE DOUBLEzLANE ROTATION-FLOORPLANE ALTERNATINGzLANE RO",
     "TATION-WALLPLANE SINGLEzLANE ROTATION-WALLPLANE DOUBLEzLANE ROTATION-WALLPLANE ALTERNATING",
     "zLANE SHAKINGmMOVEMENT-WALLPLANE CURVE QUARTER SMALLzPLANE CURVE QUARTER MEDIUMzPLANE CURV",
     "E QUARTER LARGEzPLANE CURVE QUARTER LARGESTzPLANE CURVE HALF-CIRCLE SMALLzPLANE CURVE HALF",
     "-CIRCLE MEDIUM"]),
    (0x1D98E,
    ["aSIGNWRITING MOVEMENT-WALLPLANE CURVE HALF-CIRCLE LARGEzPLANE CURVE HALF-CIRCLE LARGESTzPL",
     "ANE CURVE THREE-QUARTER CIRCLE SMALLzPLANE CURVE THREE-QUARTER CIRCLE MEDIUMzPLANE HUMP SM",
     "ALLzPLANE HUMP MEDIUMzPLANE HUMP LARGEzPLANE LOOP SMALLzPLANE LOOP MEDIUMzPLANE LOOP LARGE",
     "zPLANE LOOP SMALL DOUBLEzPLANE WAVE CURVE DOUBLE SMALLzPLANE WAVE CURVE DOUBLE MEDIUMzPLAN",
     "E WAVE CURVE DOUBLE LARGEzPLANE WAVE CURVE TRIPLE SMALLzPLANE WAVE CURVE TRIPLE MEDIUMzPLA",
     "NE WAVE CURVE TRIPLE LARGEzPLANE CURVE THEN STRAIGHTzPLANE CURVED CROSS SMALLzPLANE CURVED",
     " CROSS MEDIUMmROTATION-WALLPLANE SINGLEzPLANE DOUBLEzPLANE ALTERNATEmMOVEMENT-WALLPLANE SH",
     "AKINGzPLANE CURVE HITTING FRONT WALLzPLANE HUMP HITTING FRONT WALLzPLANE LOOP HITTING FRON",
     "T WALLzPLANE WAVE HITTING FRONT WALLmROTATION-WALLPLANE SINGLE HITTING FRONT WALLzPLANE DO",
     "UBLE HITTING FRONT WALLzPLANE ALTERNATING HITTING FRONT WALLmMOVEMENT-WALLPLANE CURVE HITT",
     "ING CHESTzPLANE HUMP HITTING CHESTzPLANE LOOP HITTING CHESTzPLANE WAVE HITTING CHESTmROTAT",
     "ION-WALLPLANE SINGLE HITTING CHESTzPLANE DOUBLE HITTING CHESTzPLANE ALTERNATING HITTING CH",
     "ESTmMOVEMENT-WALLPLANE WAVE DIAGONAL PATH SMALLzPLANE WAVE DIAGONAL PATH MEDIUMzPLANE WAVE",
     " DIAGONAL PATH LARGEvFLOORPLANE CURVE HITTING CEILING SMALLzRPLANE CURVE HITTING CEILING L",
     "ARGEzRPLANE HUMP HITTING CEILING SMALL DOUBLEzRPLANE HUMP HITTING CEILING LARGE DOUBLEzRPL",
     "ANE HUMP HITTING CEILING SMALL TRIPLEzRPLANE HUMP HITTING CEILING LARGE TRIPLEzRPLANE LOOP",
     " HITTING CEILING SMALL SINGLEzRPLANE LOOP HITTING CEILING LARGE SINGLEzRPLANE LOOP HITTING",
     " CEILING SMALL DOUBLEzRPLANE LOOP HITTING CEILING LARGE DOUBLEzRPLANE WAVE HITTING CEILING",
     " SMALLzRPLANE WAVE HITTING CEILING LARGEmROTATION-FLOORPLANE SINGLE HITTING CEILINGzRPLANE",
     " DOUBLE HITTING CEILINGzRPLANE ALTERNATING HITTING CEILINGmMOVEMENT-FLOORPLANE CURVE HITTI",
     "NG FLOOR SMALLzRPLANE CURVE HITTING FLOOR LARGEzRPLANE HUMP HITTING FLOOR SMALL DOUBLEzRPL",
     "ANE HUMP HITTING FLOOR LARGE DOUBLEzRPLANE HUMP HITTING FLOOR TRIPLE SMALL TRIPLEzRPLANE H",
     "UMP HITTING FLOOR TRIPLE LARGE TRIPLEzRPLANE LOOP HITTING FLOOR SMALL SINGLEzRPLANE LOOP H",
     "ITTING FLOOR LARGE SINGLE"]),
    (0x1D9CE,
    ["aSIGNWRITING MOVEMENT-FLOORPLANE LOOP HITTING FLOOR SMALL DOUBLEzRPLANE LOOP HITTING FLOOR",
     " LARGE DOUBLEzRPLANE WAVE HITTING FLOOR SMALLzRPLANE WAVE HITTING FLOOR LARGEmROTATION-FLO",
     "ORPLANE SINGLE HITTING FLOORzRPLANE DOUBLE HITTING FLOORzRPLANE ALTERNATING HITTING FLOORm",
     "MOVEMENT-FLOORPLANE CURVE SMALLzRPLANE CURVE MEDIUMzRPLANE CURVE LARGEzRPLANE CURVE LARGES",
     "TzRPLANE CURVE COMBINEDzRPLANE HUMP SMALLzRPLANE LOOP SMALLzRPLANE WAVE SNAKEzRPLANE WAVE ",
     "SMALLzRPLANE WAVE LARGEmROTATION-FLOORPLANE SINGLEzRPLANE DOUBLEzRPLANE ALTERNATINGmMOVEME",
     "NT-FLOORPLANE SHAKING PARALLELvWALLPLANE ARM CIRCLE SMALL SINGLEzPLANE ARM CIRCLE MEDIUM S",
     "INGLEzPLANE ARM CIRCLE SMALL DOUBLEzPLANE ARM CIRCLE MEDIUM DOUBLEvFLOORPLANE ARM CIRCLE H",
     "ITTING WALL SMALL SINGLEzRPLANE ARM CIRCLE HITTING WALL MEDIUM SINGLEzRPLANE ARM CIRCLE HI",
     "TTING WALL LARGE SINGLEzRPLANE ARM CIRCLE HITTING WALL SMALL DOUBLEzRPLANE ARM CIRCLE HITT",
     "ING WALL MEDIUM DOUBLEzRPLANE ARM CIRCLE HITTING WALL LARGE DOUBLEvWALLPLANE WRIST CIRCLE ",
     "FRONT SINGLEzPLANE WRIST CIRCLE FRONT DOUBLEvFLOORPLANE WRIST CIRCLE HITTING WALL SINGLEzR",
     "PLANE WRIST CIRCLE HITTING WALL DOUBLEvWALLPLANE FINGER CIRCLES SINGLEzPLANE FINGER CIRCLE",
     "S DOUBLEvFLOORPLANE FINGER CIRCLES HITTING WALL SINGLEzRPLANE FINGER CIRCLES HITTING WALL ",
     "DOUBLEmDYNAMIC ARROWHEAD SMALLzHEAD LARGEuFASTuSLOWuTENSEuRELAXEDuSIMULTANEOUSzTANEOUS ALT",
     "ERNATINGuEVERY OTHER TIMEuGRADUALmHEADq RIMrMOVEMENT-WALLPLANE STRAIGHTz-WALLPLANE TILTz-F",
     "LOORPLANE STRAIGHTz-WALLPLANE CURVEz-FLOORPLANE CURVEz CIRCLEmFACE DIRECTION POSITION NOSE",
     " FORWARD TILTINGzN POSITION NOSE UP OR DOWNzN POSITION NOSE UP OR DOWN TILTINGmEYEBROWS ST",
     "RAIGHT UPzIGHT NEUTRALzIGHT DOWNmDREAMY EYEBROWS NEUTRAL DOWN"]),
    (0x1DA0E,
    ["aSIGNWRITING DREAMY EYEBROWS DOWN NEUTRALzWS UP NEUTRALzWS NEUTRAL UPmFOREHEAD NEUTRALvCON",
     "TACTvWRINKLEDmEYES OPENrSQUEEZEDrCLOSEDp BLINK SINGLEwMULTIPLEpS HALF OPENrWIDE OPENrHALF ",
     "CLOSEDrWIDENING MOVEMENTp WINKpLASHES UPwDOWNwFLUTTERINGpGAZE-WALLPLANE STRAIGHTzLANE STRA",
     "IGHT DOUBLEzLANE STRAIGHT ALTERNATINGuFLOORPLANE STRAIGHTzPLANE STRAIGHT DOUBLEzPLANE STRA",
     "IGHT ALTERNATINGuWALLPLANE CURVEDuFLOORPLANE CURVEDuWALLPLANE CIRCLINGmCHEEKS PUFFEDtNEUTR",
     "ALtSUCKEDmTENSE CHEEKS HIGHzMIDDLEzLOWmEARSmNOSE NEUTRALrCONTACTrWRINKLESsIGGLESmAIR BLOWI",
     "NG OUTqSUCKING INqBLOW SMALL ROTATIONSqSUCK SMALL ROTATIONSmBREATH INHALEtEXHALEmMOUTH CLO",
     "SED NEUTRALzFORWARDzCONTACTsSMILEx WRINKLEDyOPENsFROWNx WRINKLEDyOPENsOPEN CIRCLExFORWARDx",
     "WRINKLEDxOVALzAL WRINKLEDzAL YAWNxRECTANGLEzCTANGLE WRINKLEDzCTANGLE YAWNsKISS"]),
    (0x1DA4E,
    ["aSIGNWRITING MOUTH KISS FORWARDxWRINKLEDsTENSEx FORWARDySUCKEDmLIPS PRESSED TOGETHERp LOWE",
     "R OVER UPPERqUPPER OVER LOWERmMOUTH CORNERSsWRINKLES SINGLEzS DOUBLEmTONGUE STICKING OUT F",
     "ARtLICKING LIPStTIP BETWEEN LIPSxTOUCHING INSIDE MOUTHtINSIDE MOUTH RELAXEDtMOVES AGAINST ",
     "CHEEKtCENTRE STICKING OUTz INSIDE MOUTHnEETHr MOVEMENTsON TONGUEzUE MOVEMENTvLIPSz MOVEMEN",
     "TsBITE LIPSmMOVEMENT-WALLPLANE JAWvFLOORPLANE JAWmNECKmHAIRmEXCITEMENTmSHOULDER HIP SPINEz",
     "POSITIONSmWALLPLANE SHOULDER HIP MOVEmFLOORPLANE SHOULDER HIP MOVEmSHOULDER TILTING FROM W",
     "AISTmTORSO-WALLPLANE STRAIGHT STRETCHzNE CURVED BENDsFLOORPLANE TWISTINGmUPPER BODY TILTIN",
     "G FROM HIP JOINTSmLIMB COMBINATIONrLENGTH-1y2y3y4y5y6y7mFINGERmLOCATION-WALLPLANE SPACEvFL",
     "OORPLANE SPACEu HEIGHTvWIDTHvDEPTHvHEAD NECKvTORSOvLIMBS DIGITSmCOMMAmFULL STOPmSEMICOLONm",
     "COLONmPARENTHESIS"]),
    (0x1DA9B,
    ["aSIGNWRITING FILL MODIFIER-2z-3z-4z-5z-6"]),
    (0x1DAA1,
    ["aSIGNWRITING ROTATION MODIFIER-2zFIER-3zFIER-4zFIER-5zFIER-6zFIER-7zFIER-8zFIER-9zFIER-10z",
     "FIER-11zFIER-12zFIER-13zFIER-14zFIER-15zFIER-16"]),
    (0x1DF00,
    ["aLATIN SMALL LETTER FENG DIGRAPH WITH TRILLtREVERSED SCRIPT GgLETTER SMALL CAPITAL TURNED ",
     "GgSMALL LETTER REVERSED KgLETTER SMALL CAPITAL L WITH BELTgSMALL LETTER LEZH WITH RETROFLE",
     "X HOOKtTURNED Y WITH BELTtREVERSED ENGtTURNED R WITH LONG LEG AND RETROFLEX HOOKu WITH HOO",
     "K AND RETROFLEX HOOKgLETTER RETROFLEX CLICK WITH RETROFLEX HOOKgSMALL LETTER ESH WITH DOUB",
     "LE BARzTH DOUBLE BAR AND CURLtTURNED T WITH CURLgLETTER INVERTED GLOTTAL STOP WITH CURLnST",
     "RETCHED C WITH CURLoMALL CAPITAL TURNED KgSMALL LETTER L WITH FISHHOOKtDEZH DIGRAPH WITH P",
     "ALATAL HOOKtL WITH BELT AND PALATAL HOOKtENG WITH PALATAL HOOKtTURNED R WITH PALATAL HOOKt",
     "R WITH FISHHOOK AND PALATAL HOOKtTESH DIGRAPH WITH PALATAL HOOKtEZH WITH PALATAL HOOKtDEZH",
     " DIGRAPH WITH RETROFLEX HOOKtI WITH STROKE AND RETROFLEX HOOKtO WITH RETROFLEX HOOKtTESH D",
     "IGRAPH WITH RETROFLEX HOOKtC WITH RETROFLEX HOOKtS WITH CURL"]),
    (0x1E000,
    ["aCOMBINING GLAGOLITIC LETTER AZUzER BUKYzER VEDEzER GLAGOLIzER DOBROzER YESTUzER ZHIVETE"]),
    (0x1E008,
    ["aCOMBINING GLAGOLITIC LETTER ZEMLJAzER IZHEzER INITIAL IZHEzER IzER DJERVIzER KAKOzER LJUD",
     "IJEzER MYSLITEzER NASHIzER ONUzER POKOJIzER RITSIzER SLOVOzER TVRIDOzER UKUzER FRITUzER HE",
     "RU"]),
    (0x1E01B,
    ["aCOMBINING GLAGOLITIC LETTER SHTAzER TSIzER CHRIVIzER SHAzER YERUzER YERIzER YATI"]),
    (0x1E023,
    ["aCOMBINING GLAGOLITIC LETTER YUzER SMALL YUS"]),
    (0x1E026,
    ["aCOMBINING GLAGOLITIC LETTER YOzER IOTATED SMALL YUSzER BIG YUSzER IOTATED BIG YUSzER FITA"]),
    (0x1E100,
    ["aNYIAKENG PUACHUE HMONG LETTER MAzTTER TSAzTTER NTAzTTER TAzTTER HAzTTER NAzTTER XAzTTER N",
     "KAzTTER CAzTTER LAzTTER SAzTTER ZAzTTER NCAzTTER NTSAzTTER KAzTTER DAzTTER NYAzTTER NRAzTT",
     "ER VAzTTER NTXAzTTER TXAzTTER FAzTTER RAzTTER QAzTTER YAzTTER NQAzTTER PAzTTER XYAzTTER NP",
     "AzTTER DLAzTTER NPLAzTTER HAHzTTER MLAzTTER PLAzTTER GAzTTER RRAzTTER AzTTER AAzTTER IzTTE",
     "R UzTTER OzTTER OOzTTER EzTTER EEzTTER W"]),
    (0x1E130,
    ["aNYIAKENG PUACHUE HMONG TONE-BzNE-MzNE-JzNE-VzNE-SzNE-GzNE-DxSIGN FOR PERSONzGN FOR THINGz",
     "GN FOR LOCATIONzGN FOR ANIMALzGN FOR INVERTEBRATEzGN XW XWyYLLABLE LENGTHENER"]),
    (0x1E140,
    ["aNYIAKENG PUACHUE HMONG DIGIT ZEROzGIT ONEzGIT TWOzGIT THREEzGIT FOURzGIT FIVEzGIT SIXzGIT",
     " SEVENzGIT EIGHTzGIT NINE"]),
    (0x1E14E,
    ["aNYIAKENG PUACHUE HMONG LOGOGRAM NYAJxCIRCLED CA"]),
    (0x1E290,
    ["aTOTO LETTER PAmBAmTAmDAmKAmGAmMAmNAnGAmSAmCHAmYAmWAmJAmHAmRAmLAmImBREATHY ImIUmBREATHY IU",
     "mUmEmBREATHY EmEOmBREATHY EOmOmAEmBREATHY AEmAfSIGN RISING TONE"]),
    (0x1E2C0,
    ["aWANCHO LETTER AApoBAoCAoDAoGAoYAoPHAoLAoNAoPAoTApHAoFAoSApHAoJAoZAoWAoVAoKAoOoAUoRAoMAoKH",
     "AoHAoEoIoNGAoUoLLHAoTSApRAoONGoAANGpNGoINGoONoENoAANoNYAoUENoYIHhTONE TUPpNImKOIpNIhDIGIT ",
     "ZEROnONEnTWOoHREEnFOURoIVEnSIXoEVENnEIGHTnNINE"]),
    (0x1E2FF,
    ["aWANCHO NGUN SIGN"]),
    (0x1E7E0,
    ["aETHIOPIC SYLLABLE HHYAvUvIvAAvEEwvO"]),
    (0x1E7E8,
    ["aETHIOPIC SYLLABLE GURAGE HHWAsHHWIvEEw"]),
    (0x1E7ED,
    ["aETHIOPIC SYLLABLE GURAGE MWIzMWEE"]),
    (0x1E7F0,
    ["aETHIOPIC SYLLABLE GURAGE QWIzQWEEzQWEzBWIzBWEEzKWIzKWEEzKWEzGWIzGWEEzGWEzFWIzFWEEzPWIzPWE",
     "E"]),
    (0x1E800,
    ["aMENDE KIKAKUI SYLLABLE M001 KIz02 KAz03 KUz65 KEEz95 KEz76 KOOz48 KOy179 KUAy004 WIz05 WA",
     "z06 WUy126 WEEz18 WEz14 WOOy045 WOy194 WUIz43 WEIy061 WVIz49 WVAy139 WVEy007 MINz08 MANz09",
     " MUNz59 MENz94 MONy154 MUANz89 MUENy010 BIz11 BAz12 BUy150 BEEy097 BEy103 BOOz38 BOy013 Iz",
     "14 Az15 Uy163 EEz00 Ez65 OOz47 Oz37 EIz31 INz35 INz95 ANz78 ENy019 SIz20 SAz21 SUy162 SEEz",
     "16 SEz36 SOOy079 SOy196 SIAy025 LIz26 LAz27 LUz84 LEEz73 LEz54 LOOy153 LOz10 LONG LEy016 D",
     "Iz17 DA"]),
    (0x1E840,
    ["aMENDE KIKAKUI SYLLABLE M018 DUz89 DEEy180 DOOz81 DOy022 TIz23 TAz24 TUz91 TEEz55 TEy104 T",
     "OOy069 TOz28 JIz29 JAz30 JUy157 JEEz13 JEz60 JOOy063 JOy175 LONG JOy031 YIz32 YAz33 YUy109",
     " YEEy080 YEy141 YOOz21 YOy034 FIz35 FAz36 FUz78 FEEz75 FEy133 FOOy088 FOy197 FUAz01 FANy03",
     "7 NINz38 NANz39 NUNy117 NENz69 NONz76 HIy041 HAy186 HUy040 HEEz96 HEz42 HOOy140 HOy083 HEE",
     "Iy128 HOOUy053 HINy130 HANy087 HUNz52 HENy193 HONy046 HUANz90 NGGIz43 NGGAz82 NGGUy115 NGG",
     "EEz46 NGGEz56 NGGOOz20 NGGOz59 NGGAAz27 NGGUA"]),
    (0x1E880,
    ["aMENDE KIKAKUI SYLLABLE M086 LONG NGGEy106 LONG NGGOOz83 LONG NGGOz55 GIz11 GAz68 GUz90 GE",
     "Ez66 GUEIz67 GUANz84 NGENy057 NGONy177 NGUANy068 PIz99 PAz50 PUz81 PEEz51 PEy102 POOy066 P",
     "Oy145 MBIy062 MBAy122 MBUy047 MBEEy188 MBEEy072 MBEy172 MBOOz74 MBOz87 MBUUz61 LONG MBEz05",
     " LONG MBOOz42 LONG MBOz32 KPIy092 KPAz74 KPUz44 KPEEy108 KPEz12 KPOOz58 KPOz24 GBIy056 GBA",
     "y148 GBUy093 GBEEy107 GBEy071 GBOOz70 GBOy171 RAz23 NDIz29 NDAz25 NDUz91 NDEEz19 NDEy067 N",
     "DOOz64 NDOy152 NJAz92 NJUz49 NJEEz34 NJOOz82 VIz85 VAz51 VUz73 VEEy085 VEy144 VOOy077 VO"]),
    (0x1E8C0,
    ["aMENDE KIKAKUI SYLLABLE M164 NYINy058 NYANy170 NYUNy098 NYENz60 NYON"]),
    (0x1E8C7,
    ["aMENDE KIKAKUI DIGIT ONEuTWOvHREEuFOURvIVEuSIXvEVENuEIGHTuNINEoCOMBINING NUMBER TEENSzUMBE",
     "R TENSzUMBER HUNDREDSzUMBER THOUSANDSzUMBER TEN THOUSANDSzUMBER HUNDRED THOUSANDSzUMBER MI",
     "LLIONS"]),
    (0x1E900,
    ["aADLAM CAPITAL LETTER ALIFvDAALIvLAAMvMIIMvBAvSINNYIIYHEvPEvBHEvRAvEvFAvIvOvDHAvYHEvWAWvNU",
     "NvKAFvYAvUvJIIMvCHIvHAvQAAFvGAvNYAvTUvNHAvVAvKHAvGBEvZALvKPOvSHAgSMALL LETTER ALIFtDAALItL",
     "AAMtMIIMtBAtSINNYIIYHEtPEtBHEtRAtEtFAtItOtDHAtYHEtWAWtNUNtKAFtYAtUtJIIMtCHItHAtQAAFtGAtNYA",
     "tTUtNHAtVAtKHA"]),
    (0x1E940,
    ["aADLAM SMALL LETTER GBEtZALtKPOtSHAgALIF LENGTHENERgVOWEL LENGTHENERgGEMINATION MARKgHAMZA",
     "gCONSONANT MODIFIERgGEMINATE CONSONANT MODIFIERgNUKTAhASALIZATION MARK"]),
    (0x1E950,
    ["aADLAM DIGIT ZEROmONEmTWOnHREEmFOURnIVEmSIXnEVENmEIGHTmNINE"]),
    (0x1E95E,
    ["aADLAM INITIAL EXCLAMATION MARKoQUESTION MARK"]),
    (0x1EC71,
    ["aINDIC SIYAQ NUMBER ONEtTWOuHREEtFOURuIVEtSIXuEVENtEIGHTtNINEtTENuWENTYuHIRTYtFORTYuIFTYtS",
     "IXTYuEVENTYtEIGHTYtNINETYtONE HUNDREDtTWO HUNDREDuHREE HUNDREDtFOUR HUNDREDuIVE HUNDREDtSI",
     "X HUNDREDuEVEN HUNDREDtEIGHT HUNDREDtNINE HUNDREDtONE THOUSANDtTWO THOUSANDuHREE THOUSANDt",
     "FOUR THOUSANDuIVE THOUSANDtSIX THOUSANDuEVEN THOUSANDtEIGHT THOUSANDtNINE THOUSANDtTEN THO",
     "USANDuWENTY THOUSANDuHIRTY THOUSANDtFORTY THOUSANDuIFTY THOUSANDtSIXTY THOUSANDuEVENTY THO",
     "USANDtEIGHTY THOUSANDtNINETY THOUSANDtLAKHxANmLAKH MARKmNUMBER KARORyANtPREFIXED ONEzED TW",
     "OzED THREEzED FOURzED FIVEzED SIXzED SEVENzED EIGHTzED NINEmPLACEHOLDERmFRACTION ONE QUART",
     "ERzHALFvTHREE QUARTERSmRUPEE MARK"]),
    (0x1ECB1,
    ["aINDIC SIYAQ NUMBER ALTERNATE ONEzATE TWOzATE TEN THOUSANDmALTERNATE LAKH MARK"]),
    (0x1ED01,
    ["aOTTOMAN SIYAQ NUMBER ONEvTWOwHREEvFOURwIVEvSIXwEVENvEIGHTvNINEvTENwWENTYwHIRTYvFORTYwIFTY",
     "vSIXTYwEVENTYvEIGHTYvNINETYvONE HUNDREDvTWO HUNDREDwHREE HUNDREDvFOUR HUNDREDwIVE HUNDREDv",
     "SIX HUNDREDwEVEN HUNDREDvEIGHT HUNDREDvNINE HUNDREDvONE THOUSANDvTWO THOUSANDwHREE THOUSAN",
     "DvFOUR THOUSANDwIVE THOUSANDvSIX THOUSANDwEVEN THOUSANDvEIGHT THOUSANDvNINE THOUSANDvTEN T",
     "HOUSANDwWENTY THOUSANDwHIRTY THOUSANDvFORTY THOUSANDwIFTY THOUSANDvSIXTY THOUSANDwEVENTY T",
     "HOUSANDvEIGHTY THOUSANDvNINETY THOUSANDoMARRATANoALTERNATE NUMBER TWOzUMBER THREEzUMBER FO",
     "URzUMBER FIVEzUMBER SIXzUMBER SEVENzUMBER EIGHTzUMBER NINEzUMBER TENzUMBER FOUR HUNDREDzUM",
     "BER SIX HUNDREDzUMBER TWO THOUSANDzUMBER TEN THOUSANDoFRACTION ONE HALFzE SIXTH"]),
    (0x1EE00,
    ["aARABIC MATHEMATICAL ALEFuBEHuJEEMuDAL"]),
    (0x1EE05,
    ["aARABIC MATHEMATICAL WAWuZAINuHAHuTAHuYEHuKAFuLAMuMEEMuNOONuSEENuAINuFEHuSADuQAFuREHuSHEEN",
     "uTEHvHEHuKHAHuTHALuDADuZAHuGHAINuDOTLESS BEHzSS NOONzSS FEHzSS QAF"]),
    (0x1EE21,
    ["aARABIC MATHEMATICAL INITIAL BEHzAL JEEM"]),
    (0x1EE24,
    ["aARABIC MATHEMATICAL INITIAL HEH"]),
    (0x1EE27,
    ["aARABIC MATHEMATICAL INITIAL HAH"]),
    (0x1EE29,
    ["aARABIC MATHEMATICAL INITIAL YEHzAL KAFzAL LAMzAL MEEMzAL NOONzAL SEENzAL AINzAL FEHzAL SA",
     "DzAL QAF"]),
    (0x1EE34,
    ["aARABIC MATHEMATICAL INITIAL SHEENzAL TEHzAL THEHzAL KHAH"]),
    (0x1EE39,
    ["aARABIC MATHEMATICAL INITIAL DAD"]),
    (0x1EE3B,
    ["aARABIC MATHEMATICAL INITIAL GHAIN"]),
    (0x1EE42,
    ["aARABIC MATHEMATICAL TAILED JEEM"]),
    (0x1EE47,
    ["aARABIC MATHEMATICAL TAILED HAH"]),
    (0x1EE49,
    ["aARABIC MATHEMATICAL TAILED YEH"]),
    (0x1EE4B,
    ["aARABIC MATHEMATICAL TAILED LAM"]),
    (0x1EE4D,
    ["aARABIC MATHEMATICAL TAILED NOONzD SEENzD AIN"]),
    (0x1EE51,
    ["aARABIC MATHEMATICAL TAILED SADzD QAF"]),
    (0x1EE54,
    ["aARABIC MATHEMATICAL TAILED SHEEN"]),
    (0x1EE57,
    ["aARABIC MATHEMATICAL TAILED KHAH"]),
    (0x1EE59,
    ["aARABIC MATHEMATICAL TAILED DAD"]),
    (0x1EE5B,
    ["aARABIC MATHEMATICAL TAILED GHAIN"]),
    (0x1EE5D,
    ["aARABIC MATHEMATICAL TAILED DOTLESS NOON"]),
    (0x1EE5F,
    ["aARABIC MATHEMATICAL TAILED DOTLESS QAF"]),
    (0x1EE61,
    ["aARABIC MATHEMATICAL STRETCHED BEHzCHED JEEM"]),
    (0x1EE64,
    ["aARABIC MATHEMATICAL STRETCHED HEH"]),
    (0x1EE67,
    ["aARABIC MATHEMATICAL STRETCHED HAHzCHED TAHzCHED YEHzCHED KAF"]),
    (0x1EE6C,
    ["aARABIC MATHEMATICAL STRETCHED MEEMzCHED NOONzCHED SEENzCHED AINzCHED FEHzCHED SADzCHED QA",
     "F"]),
    (0x1EE74,
    ["aARABIC MATHEMATICAL STRETCHED SHEENzCHED TEHzCHED THEHzCHED KHAH"]),
    (0x1EE79,
    ["aARABIC MATHEMATICAL STRETCHED DADzCHED ZAHzCHED GHAINzCHED DOTLESS BEH"]),
    (0x1EE7E,
    ["aARABIC MATHEMATICAL STRETCHED DOTLESS FEH"]),
    (0x1EE80,
    ["aARABIC MATHEMATICAL LOOPED ALEFzD BEHzD JEEMzD DALzD HEHzD WAWzD ZAINzD HAHzD TAHzD YEH"]),
    (0x1EE8B,
    ["aARABIC MATHEMATICAL LOOPED LAMzD MEEMzD NOONzD SEENzD AINzD FEHzD SADzD QAFzD REHzD SHEEN",
     "zD TEHzD THEHzD KHAHzD THALzD DADzD ZAHzD GHAIN"]),
    (0x1EEA1,
    ["aARABIC MATHEMATICAL DOUBLE-STRUCK BEHzE-STRUCK JEEMzE-STRUCK DAL"]),
    (0x1EEA5,
    ["aARABIC MATHEMATICAL DOUBLE-STRUCK WAWzE-STRUCK ZAINzE-STRUCK HAHzE-STRUCK TAHzE-STRUCK YE",
     "H"]),
    (0x1EEAB,
    ["aARABIC MATHEMATICAL DOUBLE-STRUCK LAMzE-STRUCK MEEMzE-STRUCK NOONzE-STRUCK SEENzE-STRUCK ",
     "AINzE-STRUCK FEHzE-STRUCK SADzE-STRUCK QAFzE-STRUCK REHzE-STRUCK SHEENzE-STRUCK TEHzE-STRU",
     "CK THEHzE-STRUCK KHAHzE-STRUCK THALzE-STRUCK DADzE-STRUCK ZAHzE-STRUCK GHAIN"]),
    (0x1EEF0,
    ["aARABIC MATHEMATICAL OPERATOR MEEM WITH HAH WITH TATWEELzTOR HAH WITH DAL"]),
    (0x1F000,
    ["aMAHJONG TILE EAST WINDnSOUTH WINDnWEST WINDnNORTH WINDnRED DRAGONnGREEN DRAGONnWHITE DRAG",
     "ONnONE OF CHARACTERSnTWO OF CHARACTERSoHREE OF CHARACTERSnFOUR OF CHARACTERSoIVE OF CHARAC",
     "TERSnSIX OF CHARACTERSoEVEN OF CHARACTERSnEIGHT OF CHARACTERSnNINE OF CHARACTERSnONE OF BA",
     "MBOOSnTWO OF BAMBOOSoHREE OF BAMBOOSnFOUR OF BAMBOOSoIVE OF BAMBOOSnSIX OF BAMBOOSoEVEN OF",
     " BAMBOOSnEIGHT OF BAMBOOSnNINE OF BAMBOOSnONE OF CIRCLESnTWO OF CIRCLESoHREE OF CIRCLESnFO",
     "UR OF CIRCLESoIVE OF CIRCLESnSIX OF CIRCLESoEVEN OF CIRCLESnEIGHT OF CIRCLESnNINE OF CIRCL",
     "ESnPLUMnORCHIDnBAMBOOnCHRYSANTHEMUMnSPRINGoUMMERnAUTUMNnWINTERnJOKERnBACK"]),
    (0x1F030,
    ["aDOMINO TILE HORIZONTAL BACKw-00-00z-01z-02z-03z-04z-05z-06y1-00z-01z-02z-03z-04z-05z-06y2",
     "-00z-01z-02z-03z-04z-05z-06y3-00z-01z-02z-03z-04z-05z-06y4-00z-01z-02z-03z-04z-05z-06y5-00",
     "z-01z-02z-03z-04z-05z-06y6-00z-01z-02z-03z-04z-05z-06mVERTICAL BACKu-00-00z1z2z3z4z5z6w1-0",
     "0z1z2z3z4z5"]),
    (0x1F070,
    ["aDOMINO TILE VERTICAL-01-06w2-00z1z2z3z4z5z6w3-00z1z2z3z4z5z6w4-00z1z2z3z4z5z6w5-00z1z2z3z",
     "4z5z6w6-00z1z2z3z4z5z6"]),
    (0x1F0A0,
    ["aPLAYING CARD BACKnACE OF SPADESnTWO OF SPADESoHREE OF SPADESnFOUR OF SPADESoIVE OF SPADES",
     "nSIX OF SPADESoEVEN OF SPADESnEIGHT OF SPADESnNINE OF SPADESnTEN OF SPADESnJACK OF SPADESn",
     "KNIGHT OF SPADESnQUEEN OF SPADESnKING OF SPADES"]),
    (0x1F0B1,
    ["aPLAYING CARD ACE OF HEARTSnTWO OF HEARTSoHREE OF HEARTSnFOUR OF HEARTSoIVE OF HEARTSnSIX ",
     "OF HEARTSoEVEN OF HEARTSnEIGHT OF HEARTSnNINE OF HEARTSnTEN OF HEARTSnJACK OF HEARTSnKNIGH",
     "T OF HEARTSnQUEEN OF HEARTSnKING OF HEARTSnRED JOKER"]),
    (0x1F0C1,
    ["aPLAYING CARD ACE OF DIAMONDSnTWO OF DIAMONDSoHREE OF DIAMONDSnFOUR OF DIAMONDSoIVE OF DIA",
     "MONDSnSIX OF DIAMONDSoEVEN OF DIAMONDSnEIGHT OF DIAMONDSnNINE OF DIAMONDSnTEN OF DIAMONDSn",
     "JACK OF DIAMONDSnKNIGHT OF DIAMONDSnQUEEN OF DIAMONDSnKING OF DIAMONDSnBLACK JOKER"]),
    (0x1F0D1,
    ["aPLAYING CARD ACE OF CLUBSnTWO OF CLUBSoHREE OF CLUBSnFOUR OF CLUBSoIVE OF CLUBSnSIX OF CL",
     "UBSoEVEN OF CLUBSnEIGHT OF CLUBSnNINE OF CLUBSnTEN OF CLUBSnJACK OF CLUBSnKNIGHT OF CLUBSn",
     "QUEEN OF CLUBSnKING OF CLUBSnWHITE JOKERnFOOLnTRUMP-1t2t3t4t5t6t7t8t9t10u1u2u3u4u5u6u7u8u9",
     "t20u1"]),
    (0x1F100,
    ["aDIGIT ZERO FULL STOPlCOMMAgONE COMMAgTWO COMMAhHREE COMMAgFOUR COMMAhIVE COMMAgSIX COMMAh",
     "EVEN COMMAgEIGHT COMMAgNINE COMMAcNGBAT CIRCLED SANS-SERIF DIGIT ZEROiNEGATIVE CIRCLED SAN",
     "S-SERIF DIGIT ZEROaCIRCLED ZERO WITH SLASHiANTICLOCKWISE ARROWiDOLLAR SIGN WITH OVERLAID B",
     "ACKSLASHaPARENTHESIZED LATIN CAPITAL LETTER AzAL LETTER BzAL LETTER CzAL LETTER DzAL LETTE",
     "R EzAL LETTER FzAL LETTER GzAL LETTER HzAL LETTER IzAL LETTER JzAL LETTER KzAL LETTER LzAL",
     " LETTER MzAL LETTER NzAL LETTER OzAL LETTER PzAL LETTER QzAL LETTER RzAL LETTER SzAL LETTE",
     "R TzAL LETTER UzAL LETTER VzAL LETTER WzAL LETTER XzAL LETTER YzAL LETTER ZaTORTOISE SHELL",
     " BRACKETED LATIN CAPITAL LETTER SaCIRCLED ITALIC LATIN CAPITAL LETTER CzTAL LETTER RiCDiWZ",
     "bOPYLEFT SYMBOLaSQUARED LATIN CAPITAL LETTER AzTER BzTER CzTER DzTER EzTER FzTER GzTER HzT",
     "ER IzTER JzTER KzTER LzTER MzTER NzTER OzTER P"]),
    (0x1F140,
    ["aSQUARED LATIN CAPITAL LETTER QzTER RzTER SzTER TzTER UzTER VzTER WzTER XzTER YzTER ZiHViM",
     "ViSDjSiPPViWCaNEGATIVE CIRCLED LATIN CAPITAL LETTER AzPITAL LETTER BzPITAL LETTER CzPITAL ",
     "LETTER DzPITAL LETTER EzPITAL LETTER FzPITAL LETTER GzPITAL LETTER HzPITAL LETTER IzPITAL ",
     "LETTER JzPITAL LETTER KzPITAL LETTER LzPITAL LETTER MzPITAL LETTER NzPITAL LETTER OzPITAL ",
     "LETTER PzPITAL LETTER QzPITAL LETTER RzPITAL LETTER SzPITAL LETTER TzPITAL LETTER UzPITAL ",
     "LETTER VzPITAL LETTER WzPITAL LETTER XzPITAL LETTER YzPITAL LETTER ZaRAISED MC SIGNiD SIGN",
     "iR SIGNaCIRCLED CCj WITH OVERLAID BACKSLASHiHUMAN FIGUREaNEGATIVE SQUARED LATIN CAPITAL LE",
     "TTER AzPITAL LETTER BzPITAL LETTER CzPITAL LETTER DzPITAL LETTER EzPITAL LETTER FzPITAL LE",
     "TTER GzPITAL LETTER HzPITAL LETTER IzPITAL LETTER JzPITAL LETTER KzPITAL LETTER LzPITAL LE",
     "TTER MzPITAL LETTER NzPITAL LETTER OzPITAL LETTER P"]),
    (0x1F180,
    ["aNEGATIVE SQUARED LATIN CAPITAL LETTER QzPITAL LETTER RzPITAL LETTER SzPITAL LETTER TzPITA",
     "L LETTER UzPITAL LETTER VzPITAL LETTER WzPITAL LETTER XzPITAL LETTER YzPITAL LETTER ZaCROS",
     "SED NEGATIVE SQUARED LATIN CAPITAL LETTER PaNEGATIVE SQUARED ICrPArSArABrWCaSQUARE DJgD CL",
     "jOOLiFREEiIDiNEWjGiOKiSOSiUP WITH EXCLAMATION MARKiVSiTHREE DiSECOND SCREENiTWO KiFOUR KiE",
     "IGHT KiFIVE POINT ONEiSEVEN POINT ONEiTWENTY-TWO POINT TWOiSIXTY PiONE HUNDRED TWENTY PiLA",
     "TIN SMALL LETTER DiHCjDRjI-RESiLOSSLESSiSHViUHDiVODaMASK WORK SYMBOL"]),
    (0x1F1E6,
    ["aREGIONAL INDICATOR SYMBOL LETTER Az LETTER Bz LETTER Cz LETTER Dz LETTER Ez LETTER Fz LET",
     "TER Gz LETTER Hz LETTER Iz LETTER Jz LETTER Kz LETTER Lz LETTER Mz LETTER Nz LETTER Oz LET",
     "TER Pz LETTER Qz LETTER Rz LETTER Sz LETTER Tz LETTER Uz LETTER Vz LETTER Wz LETTER Xz LET",
     "TER Yz LETTER ZaSQUARE HIRAGANA HOKAgD KATAKANA KOKOrSA"]),
    (0x1F210,
    ["aSQUARED CJK UNIFIED IDEOGRAPH-624BzRAPH-5B57zRAPH-53CCiKATAKANA DEiCJK UNIFIED IDEOGRAPH-",
     "4E8CzRAPH-591AzRAPH-89E3zRAPH-5929zRAPH-4EA4zRAPH-6620zRAPH-7121zRAPH-6599zRAPH-524DzRAPH-",
     "5F8CzRAPH-518DzRAPH-65B0zRAPH-521DzRAPH-7D42zRAPH-751FzRAPH-8CA9zRAPH-58F0zRAPH-5439zRAPH-",
     "6F14zRAPH-6295zRAPH-6355zRAPH-4E00zRAPH-4E09zRAPH-904AzRAPH-5DE6zRAPH-4E2DzRAPH-53F3zRAPH-",
     "6307zRAPH-8D70zRAPH-6253zRAPH-7981zRAPH-7A7AzRAPH-5408zRAPH-6E80zRAPH-6709zRAPH-6708zRAPH-",
     "7533zRAPH-5272zRAPH-55B6zRAPH-914D"]),
    (0x1F240,
    ["aTORTOISE SHELL BRACKETED CJK UNIFIED IDEOGRAPH-672CzCJK UNIFIED IDEOGRAPH-4E09zCJK UNIFIE",
     "D IDEOGRAPH-4E8CzCJK UNIFIED IDEOGRAPH-5B89zCJK UNIFIED IDEOGRAPH-70B9zCJK UNIFIED IDEOGRA",
     "PH-6253zCJK UNIFIED IDEOGRAPH-76D7zCJK UNIFIED IDEOGRAPH-52DDzCJK UNIFIED IDEOGRAPH-6557"]),
    (0x1F250,
    ["aCIRCLED IDEOGRAPH ADVANTAGEtCCEPT"]),
    (0x1F260,
    ["aROUNDED SYMBOL FOR FUtLUtSHOUtXItSHUANGXItCAI"]),
    (0x1F300,
    ["aCYCLONEaFOGGYaCLOSED UMBRELLAaNIGHT WITH STARSaSUNRISE OVER MOUNTAINShaCITYSCAPE AT DUSKa",
     "SUNSET OVER BUILDINGSaRAINBOWaBRIDGE AT NIGHTaWATER WAVEaVOLCANOaMILKY WAYaEARTH GLOBE EUR",
     "OPE-AFRICAmAMERICASnSIA-AUSTRALIAaGLOBE WITH MERIDIANSaNEW MOON SYMBOLaWAXING CRESCENT MOO",
     "N SYMBOLaFIRST QUARTER MOON SYMBOLaWAXING GIBBOUS MOON SYMBOLaFULL MOON SYMBOLaWANING GIBB",
     "OUS MOON SYMBOLaLAST QUARTER MOON SYMBOLaWANING CRESCENT MOON SYMBOLaCRESCENT MOONaNEW MOO",
     "N WITH FACEaFIRST QUARTER MOON WITH FACEaLAST QUARTER MOON WITH FACEaFULL MOON WITH FACEaS",
     "UN WITH FACEaGLOWING STARaSHOOTING STARaTHERMOMETERaBLACK DROPLETaWHITE SUNj WITH SMALL CL",
     "OUDkBEHIND CLOUDw WITH RAINaCLOUD WITH RAINlSNOWlLIGHTNINGlTORNADOaFOGaWIND BLOWING FACEaH",
     "OT DOGaTACOaBURRITOaCHESTNUTaSEEDLINGaEVERGREEN TREEaDECIDUOUS TREEaPALM TREEaCACTUSaHOT P",
     "EPPERaTULIPaCHERRY BLOSSOMaROSEaHIBISCUSaSUNFLOWERaBLOSSOMaEAR OF MAIZEhRICEaHERB"]),
    (0x1F340,
    ["aFOUR LEAF CLOVERaMAPLE LEAFaFALLEN LEAFaLEAF FLUTTERING IN WINDaMUSHROOMaTOMATOaAUBERGINE",
     "aGRAPESaMELONaWATERMELONaTANGERINEaLEMONaBANANAaPINEAPPLEaRED APPLEaGREEN APPLEaPEARdCHaCH",
     "ERRIESaSTRAWBERRYaHAMBURGERaSLICE OF PIZZAaMEAT ON BONEaPOULTRY LEGaRICE CRACKERfBALLaCOOK",
     "ED RICEbURRY AND RICEaSTEAMING BOWLbPAGHETTIaBREADaFRENCH FRIESaROASTED SWEET POTATOaDANGO",
     "aODENaSUSHIaFRIED SHRIMPbISH CAKE WITH SWIRL DESIGNaSOFT ICE CREAMbHAVED ICEaICE CREAMaDOU",
     "GHNUTaCOOKIEbHOCOLATE BARbANDYaLOLLIPOPaCUSTARDaHONEY POTaSHORTCAKEaBENTO BOXaPOT OF FOODa",
     "COOKINGaFORK AND KNIFEaTEACUP WITHOUT HANDLEaSAKE BOTTLE AND CUPaWINE GLASSaCOCKTAIL GLASS",
     "aTROPICAL DRINKaBEER MUGaCLINKING BEER MUGSaBABY BOTTLEaFORK AND KNIFE WITH PLATEaBOTTLE W",
     "ITH POPPING CORKaPOPCORN"]),
    (0x1F380,
    ["aRIBBONaWRAPPED PRESENTaBIRTHDAY CAKEaJACK-O-LANTERNaCHRISTMAS TREEaFATHER CHRISTMASbIREWO",
     "RKSi SPARKLERaBALLOONaPARTY POPPERaCONFETTI BALLaTANABATA TREEaCROSSED FLAGSaPINE DECORATI",
     "ONaJAPANESE DOLLSaCARP STREAMERaWIND CHIMEaMOON VIEWING CEREMONYaSCHOOL SATCHELaGRADUATION",
     " CAPaHEART WITH TIP ON THE LEFTaBOUQUET OF FLOWERSaMILITARY MEDALaREMINDER RIBBONaMUSICAL ",
     "KEYBOARD WITH JACKSaSTUDIO MICROPHONEaLEVEL SLIDERaCONTROL KNOBSaBEAMED ASCENDING MUSICAL ",
     "NOTEShDESCENDING MUSICAL NOTESaFILM FRAMESaADMISSION TICKETSaCAROUSEL HORSEaFERRIS WHEELaR",
     "OLLER COASTERaFISHING POLE AND FISHaMICROPHONEbOVIE CAMERAaCINEMAaHEADPHONEaARTIST PALETTE",
     "aTOP HATaCIRCUS TENTaTICKETaCLAPPER BOARDaPERFORMING ARTSaVIDEO GAMEaDIRECT HITaSLOT MACHI",
     "NEaBILLIARDSaGAME DIEaBOWLINGaFLOWER PLAYING CARDSaMUSICAL NOTEcLTIPLE MUSICAL NOTESaSAXOP",
     "HONEaGUITARaMUSICAL KEYBOARDaTRUMPETaVIOLINaMUSICAL SCOREaRUNNING SHIRT WITH SASHaTENNIS R",
     "ACQUET AND BALLaSKI AND SKI BOOT"]),
    (0x1F3C0,
    ["aBASKETBALL AND HOOPaCHEQUERED FLAGaSNOWBOARDERaRUNNERaSURFERbPORTS MEDALaTROPHYaHORSE RAC",
     "INGaAMERICAN FOOTBALLaRUGBY FOOTBALLaSWIMMERaWEIGHT LIFTERaGOLFERaRACING MOTORCYCLEhCARaCR",
     "ICKET BAT AND BALLaVOLLEYBALLaFIELD HOCKEY STICK AND BALLaICE HOCKEY STICK AND PUCKaTABLE ",
     "TENNIS PADDLE AND BALLaSNOW CAPPED MOUNTAINaCAMPINGaBEACH WITH UMBRELLAbUILDING CONSTRUCTI",
     "ONaHOUSE BUILDINGSaCITYSCAPEaDERELICT HOUSE BUILDINGaCLASSICAL BUILDINGaDESERTg ISLANDaNAT",
     "IONAL PARKaSTADIUMaHOUSE BUILDINGgWITH GARDENaOFFICE BUILDINGaJAPANESE POST OFFICEaEUROPEA",
     "N POST OFFICEaHOSPITALaBANKaAUTOMATED TELLER MACHINEaHOTELaLOVE HOTELaCONVENIENCE STOREaSC",
     "HOOLaDEPARTMENT STOREaFACTORYaIZAKAYA LANTERNaJAPANESE CASTLEaEUROPEAN CASTLEaWHITE PENNAN",
     "TaBLACK PENNANTaWAVING WHITE FLAGhBLACK FLAGaROSETTEaBLACK ROSETTEaLABELaBADMINTON RACQUET",
     " AND SHUTTLECOCKbOW AND ARROWaAMPHORAaEMOJI MODIFIER FITZPATRICK TYPE-1-2zK TYPE-3zK TYPE-",
     "4zK TYPE-5zK TYPE-6"]),
    (0x1F400,
    ["aRATaMOUSEaOXaWATER BUFFALOaCOWaTIGERaLEOPARDaRABBITaCATaDRAGONaCROCODILEaWHALEaSNAILdKEaH",
     "ORSEaRAMaGOATaSHEEPaMONKEYaROOSTERaCHICKENaDOGaPIGaBOARaELEPHANTaOCTOPUSaSPIRAL SHELLaBUGa",
     "ANTaHONEYBEEaLADY BEETLEaFISHaTROPICAL FISHaBLOWFISHaTURTLEaHATCHING CHICKaBABY CHICKaFRON",
     "T-FACING BABY CHICKaBIRDaPENGUINaKOALAaPOODLEaDROMEDARY CAMELaBACTRIAN CAMELaDOLPHINaMOUSE",
     " FACEaCOW FACEaTIGER FACEaRABBIT FACEaCAT FACEaDRAGON FACEaSPOUTING WHALEaHORSE FACEaMONKE",
     "Y FACEaDOG FACEaPIG FACEaFROG FACEaHAMSTER FACEaWOLF FACEaBEAR FACEaPANDA FACEbIG NOSEbAW ",
     "PRINTSaCHIPMUNK"]),
    (0x1F440,
    ["aEYESdbARaNOSEaMOUTHaTONGUEaWHITE UP POINTING BACKHAND INDEXgDOWN POINTING BACKHAND INDEXg",
     "LEFT POINTING BACKHAND INDEXgRIGHT POINTING BACKHAND INDEXaFISTED HAND SIGNaWAVING HAND SI",
     "GNaOK HAND SIGNaTHUMBS UP SIGNhDOWN SIGNaCLAPPING HANDS SIGNaOPEN HANDS SIGNaCROWNaWOMANS ",
     "HATaEYEGLASSESaNECKTIEaT-SHIRTaJEANSaDRESSaKIMONOaBIKINIaWOMANS CLOTHESaPURSEaHANDBAGaPOUC",
     "HaMANS SHOEaATHLETIC SHOEaHIGH-HEELED SHOEaWOMANS SANDALhBOOTSaFOOTPRINTSaBUST IN SILHOUET",
     "TEeS IN SILHOUETTEbOYaGIRLaMANaWOMANaFAMILYaMAN AND WOMAN HOLDING HANDSaTWO MEN HOLDING HA",
     "NDSeWOMEN HOLDING HANDSaPOLICE OFFICERaWOMAN WITH BUNNY EARSaBRIDE WITH VEILaPERSON WITH B",
     "LOND HAIRaMAN WITH GUA PI MAOjTURBANaOLDER MANgWOMANaBABYaCONSTRUCTION WORKERaPRINCESSaJAP",
     "ANESE OGREjGOBLINaGHOSTaBABY ANGELaEXTRATERRESTRIAL ALIENaALIEN MONSTERaIMP"]),
    (0x1F480,
    ["aSKULLaINFORMATION DESK PERSONaGUARDSMANaDANCERaLIPSTICKaNAIL POLISHaFACE MASSAGEaHAIRCUTa",
     "BARBER POLEaSYRINGEaPILLaKISS MARKaLOVE LETTERaRINGaGEM STONEaKISSaBOUQUETaCOUPLE WITH HEA",
     "RTaWEDDINGaBEATING HEARTbROKEN HEARTaTWO HEARTSaSPARKLING HEARTaGROWING HEARTaHEART WITH A",
     "RROWaBLUE HEARTaGREEN HEARTaYELLOW HEARTaPURPLE HEARTaHEART WITH RIBBONaREVOLVING HEARTSaH",
     "EART DECORATIONaDIAMOND SHAPE WITH A DOT INSIDEaELECTRIC LIGHT BULBaANGER SYMBOLaBOMBaSLEE",
     "PING SYMBOLaCOLLISION SYMBOLaSPLASHING SWEAT SYMBOLaDROPLETbASH SYMBOLaPILE OF POOaFLEXED ",
     "BICEPSaDIZZY SYMBOLaSPEECH BALLOONaTHOUGHT BALLOONaWHITE FLOWERaHUNDRED POINTS SYMBOLaMONE",
     "Y BAGaCURRENCY EXCHANGEaHEAVY DOLLAR SIGNaCREDIT CARDaBANKNOTE WITH YEN SIGNoDOLLAR SIGNoE",
     "URO SIGNoPOUND SIGNaMONEY WITH WINGSaCHART WITH UPWARDS TREND AND YEN SIGNaSEATaPERSONAL C",
     "OMPUTERaBRIEFCASEaMINIDISCaFLOPPY DISKaOPTICAL DISC"]),
    (0x1F4C0,
    ["aDVDaFILE FOLDERaOPEN FILE FOLDERaPAGE WITH CURLfFACING UPaCALENDARaTEAR-OFF CALENDARaCARD",
     " INDEXbHART WITH UPWARDS TRENDlDOWNWARDS TRENDaBAR CHARTaCLIPBOARDaPUSHPINaROUND PUSHPINaP",
     "APERCLIPaSTRAIGHT RULERaTRIANGULAR RULERaBOOKMARK TABSaLEDGERaNOTEBOOKi WITH DECORATIVE CO",
     "VERaCLOSED BOOKaOPEN BOOKaGREEN BOOKaBLUE BOOKaORANGE BOOKaBOOKSaNAME BADGEaSCROLLaMEMOaTE",
     "LEPHONE RECEIVERaPAGERaFAX MACHINEaSATELLITE ANTENNAaPUBLIC ADDRESS LOUDSPEAKERaCHEERING M",
     "EGAPHONEaOUTBOX TRAYaINBOX TRAYaPACKAGEaE-MAIL SYMBOLaINCOMING ENVELOPEaENVELOPE WITH DOWN",
     "WARDS ARROW ABOVEaCLOSED MAILBOX WITH LOWERED FLAGuRAISED FLAGaOPEN MAILBOX WITH RAISED FL",
     "AGsLOWERED FLAGaPOSTBOXeAL HORNaNEWSPAPERaMOBILE PHONEm WITH RIGHTWARDS ARROW AT LEFTaVIBR",
     "ATION MODEaMOBILE PHONE OFFaNO MOBILE PHONESaANTENNA WITH BARSaCAMERAg WITH FLASHaVIDEO CA",
     "MERAaTELEVISIONaRADIOaVIDEOCASSETTEaFILM PROJECTORaPORTABLE STEREObRAYER BEADS"]),
    (0x1F500,
    ["aTWISTED RIGHTWARDS ARROWSaCLOCKWISE RIGHTWARDS AND LEFTWARDS OPEN CIRCLE ARROWSzLEFTWARDS",
     " OPEN CIRCLE ARROWS WITH CIRCLED ONE OVERLAYkDOWNWARDS AND UPWARDS OPEN CIRCLE ARROWSaANTI",
     "CLOCKWISE DOWNWARDS AND UPWARDS OPEN CIRCLE ARROWSaLOW BRIGHTNESS SYMBOLaHIGH BRIGHTNESS S",
     "YMBOLaSPEAKER WITH CANCELLATION STROKEhh WITH ONE SOUND WAVEnTHREE SOUND WAVESaBATTERYaELE",
     "CTRIC PLUGaLEFT-POINTING MAGNIFYING GLASSaRIGHT-POINTING MAGNIFYING GLASSaLOCK WITH INK PE",
     "NaCLOSED LOCK WITH KEYaKEYaLOCKaOPEN LOCKaBELLe WITH CANCELLATION STROKEbOOKMARKaLINK SYMB",
     "OLaRADIO BUTTONaBACK WITH LEFTWARDS ARROW ABOVEaEND WITH LEFTWARDS ARROW ABOVEaON WITH EXC",
     "LAMATION MARK WITH LEFT RIGHT ARROW ABOVEaSOON WITH RIGHTWARDS ARROW ABOVEaTOP WITH UPWARD",
     "S ARROW ABOVEaNO ONE UNDER EIGHTEEN SYMBOLaKEYCAP TENaINPUT SYMBOL FOR LATIN CAPITAL LETTE",
     "RSxSMALL LETTERSrNUMBERSrSYMBOLSrLATIN LETTERSaFIREaELECTRIC TORCHaWRENCHaHAMMERaNUT AND B",
     "OLTaHOCHOaPISTOLaMICROSCOPEaTELESCOPEaCRYSTAL BALLaSIX POINTED STAR WITH MIDDLE DOTaJAPANE",
     "SE SYMBOL FOR BEGINNERaTRIDENT EMBLEMaBLACK SQUARE BUTTONaWHITE SQUARE BUTTONaLARGE RED CI",
     "RCLEgBLUE CIRCLEgORANGE DIAMONDgBLUE DIAMONDaSMALL ORANGE DIAMONDgBLUE DIAMONDaUP-POINTING",
     " RED TRIANGLEaDOWN-POINTING RED TRIANGLEaUP-POINTING SMALL RED TRIANGLEaDOWN-POINTING SMAL",
     "L RED TRIANGLEaLOWER RIGHT SHADOWED WHITE CIRCLEaUPPER RIGHT SHADOWED WHITE CIRCLE"]),
    (0x1F540,
    ["aCIRCLED CROSS POMMEEbROSS POMMEE WITH HALF-CIRCLE BELOWmaNOTCHED LEFT SEMICIRCLE WITH THR",
     "EE DOTSiRIGHT SEMICIRCLE WITH THREE DOTSaSYMBOL FOR MARKS CHAPTERaWHITE LATIN CROSSaHEAVY ",
     "LATIN CROSSaCELTIC CROSSaOM SYMBOLaDOVE OF PEACEaKAABAaMOSQUEaSYNAGOGUEaMENORAH WITH NINE ",
     "BRANCHESaBOWL OF HYGIEIAaCLOCK FACE ONE OCLOCKlTWO OCLOCKmHREE OCLOCKlFOUR OCLOCKmIVE OCLO",
     "CKlSIX OCLOCKmEVEN OCLOCKlEIGHT OCLOCKlNINE OCLOCKlTEN OCLOCKlELEVEN OCLOCKlTWELVE OCLOCKl",
     "ONE-THIRTYlTWO-THIRTYmHREE-THIRTYlFOUR-THIRTYmIVE-THIRTYlSIX-THIRTYmEVEN-THIRTYlEIGHT-THIR",
     "TYlNINE-THIRTYlTEN-THIRTYlELEVEN-THIRTYlTWELVE-THIRTYaRIGHT SPEAKERn WITH ONE SOUND WAVEtT",
     "HREE SOUND WAVESaBULLHORNi WITH SOUND WAVESaRINGING BELLaBOOKaCANDLEaMANTELPIECE CLOCKaBLA",
     "CK SKULL AND CROSSBONESaNO PIRACYaHOLEaMAN IN BUSINESS SUIT LEVITATINGaSLEUTH OR SPYaDARK ",
     "SUNGLASSESaSPIDERg WEBaJOYSTICKaMAN DANCINGaLEFT HAND TELEPHONE RECEIVERaTELEPHONE RECEIVE",
     "R WITH PAGEaRIGHT HAND TELEPHONE RECEIVERaWHITE TOUCHTONE TELEPHONEaBLACK TOUCHTONE TELEPH",
     "ONE"]),
    (0x1F580,
    ["aTELEPHONE ON TOP OF MODEMaCLAMSHELL MOBILE PHONEaBACK OF ENVELOPEaSTAMPED ENVELOPEaENVELO",
     "PE WITH LIGHTNINGaFLYING ENVELOPEaPEN OVER STAMPED ENVELOPEaLINKED PAPERCLIPSaBLACK PUSHPI",
     "NaLOWER LEFT PENCILlBALLPOINT PENlFOUNTAIN PENlPAINTBRUSHlCRAYONbEFT WRITING HANDaTURNED O",
     "K HAND SIGNaRAISED HAND WITH FINGERS SPLAYEDbEVERSED RAISED HAND WITH FINGERS SPLAYEDjTHUM",
     "BS UP SIGNqDOWN SIGNjVICTORY HANDjHAND WITH MIDDLE FINGER EXTENDEDbAISED HAND WITH PART BE",
     "TWEEN MIDDLE AND RING FINGERSaWHITE DOWN POINTING LEFT HAND INDEXaSIDEWAYS WHITE LEFT POIN",
     "TING INDEXpRIGHT POINTING INDEXjBLACK LEFT POINTING INDEXpRIGHT POINTING INDEXaBLACK LEFT ",
     "POINTING BACKHAND INDEXgRIGHT POINTING BACKHAND INDEXaSIDEWAYS WHITE UP POINTING INDEXpDOW",
     "N POINTING INDEXjBLACK UP POINTING INDEXpDOWN POINTING INDEXaBLACK UP POINTING BACKHAND IN",
     "DEXgDOWN POINTING BACKHAND INDEXgHEARTaDESKTOP COMPUTERaKEYBOARD AND MOUSEaTHREE NETWORKED",
     " COMPUTERSaPRINTERbOCKET CALCULATORaBLACK HARD SHELL FLOPPY DISKaWHITE HARD SHELL FLOPPY D",
     "ISKaSOFT SHELL FLOPPY DISKaTAPE CARTRIDGEaWIRED KEYBOARDaONE BUTTON MOUSEaTWO BUTTON MOUSE",
     "bHREE BUTTON MOUSEbRACKBALLaOLD PERSONAL COMPUTERaHARD DISKaSCREENaPRINTER ICONaFAX ICONaO",
     "PTICAL DISC ICONaDOCUMENT WITH TEXTs AND PICTUREoPICTUREaFRAME WITH PICTURElTILESlAN XaBLA",
     "CK FOLDER"]),
    (0x1F5C0,
    ["aFOLDERaOPEN FOLDERaCARD INDEX DIVIDERSfFILE BOXaFILE CABINETaEMPTY NOTEk PAGEnDaNOTEe PAG",
     "EhDaEMPTY DOCUMENTgPAGEkSaDOCUMENTaPAGEeSaWASTEBASKETaSPIRAL NOTE PADhCALENDAR PADaDESKTOP",
     " WINDOWaMINIMIZEbAXIMIZEaOVERLAPaCLOCKWISE RIGHT AND LEFT SEMICIRCLE ARROWSbANCELLATION Xa",
     "INCREASE FONT SIZE SYMBOLaDECREASE FONT SIZE SYMBOLaCOMPRESSIONaOLD KEYaROLLED-UP NEWSPAPE",
     "RaPAGE WITH CIRCLED TEXTaSTOCK CHARTaDAGGER KNIFEaLIPSaSPEAKING HEAD IN SILHOUETTEaTHREE R",
     "AYS ABOVElBELOWlLEFTlRIGHTaLEFT SPEECH BUBBLEaRIGHT SPEECH BUBBLEaTWO SPEECH BUBBLESbHREE ",
     "SPEECH BUBBLESaLEFT THOUGHT BUBBLEaRIGHT THOUGHT BUBBLEaLEFT ANGER BUBBLEaRIGHT ANGER BUBB",
     "LEaMOOD BUBBLEaLIGHTNING MOOD BUBBLEoaBALLOT BOX WITH BALLOThSCRIPT XhBOX WITH SCRIPT XjLD",
     " SCRIPT XjX WITH BOLD SCRIPT XaLIGHT CHECK MARKaBALLOT BOX WITH BOLD CHECKaWORLD MAPaMOUNT",
     " FUJIaTOKYO TOWERaSTATUE OF LIBERTYbILHOUETTE OF JAPANaMOYAI"]),
    (0x1F600,
    ["aGRINNING FACEn WITH SMILING EYESaFACE WITH TEARS OF JOYaSMILING FACE WITH OPEN MOUTHzUTH ",
     "AND SMILING EYESzUTH AND COLD SWEATzUTH AND TIGHTLY-CLOSED EYESsHALOtORNSaWINKING FACEaSMI",
     "LING FACE WITH SMILING EYESaFACE SAVOURING DELICIOUS FOODaRELIEVED FACEaSMILING FACE WITH ",
     "HEART-SHAPED EYESsSUNGLASSESdRKING FACEaNEUTRAL FACEaEXPRESSIONLESS FACEaUNAMUSED FACEaFAC",
     "E WITH COLD SWEATaPENSIVE FACEaCONFUSED FACEeOUNDED FACEaKISSING FACEaFACE THROWING A KISS",
     "aKISSING FACE WITH SMILING EYESsCLOSED EYESaFACE WITH STUCK-OUT TONGUEzE AND WINKING EYEzE",
     " AND TIGHTLY-CLOSED EYESaDISAPPOINTED FACEaWORRIED FACEaANGRY FACEaPOUTING FACEaCRYING FAC",
     "EaPERSEVERING FACEaFACE WITH LOOK OF TRIUMPHaDISAPPOINTED BUT RELIEVED FACEaFROWNING FACE ",
     "WITH OPEN MOUTHaANGUISHED FACEaFEARFUL FACEaWEARY FACEaSLEEPY FACEaTIRED FACEaGRIMACING FA",
     "CEaLOUDLY CRYING FACEaFACE WITH OPEN MOUTHaHUSHED FACEaFACE WITH OPEN MOUTH AND COLD SWEAT",
     "fSCREAMING IN FEARaASTONISHED FACEaFLUSHED FACEaSLEEPING FACEaDIZZY FACEaFACE WITHOUT MOUT",
     "Hj MEDICAL MASKaGRINNING CAT FACE WITH SMILING EYESaCAT FACE WITH TEARS OF JOYaSMILING CAT",
     " FACE WITH OPEN MOUTHwHEART-SHAPED EYESaCAT FACE WITH WRY SMILEaKISSING CAT FACE WITH CLOS",
     "ED EYESaPOUTING CAT FACEaCRYING CAT FACE"]),
    (0x1F640,
    ["aWEARY CAT FACEaSLIGHTLY FROWNING FACEjSMILING FACEaUPSIDE-DOWN FACEaFACE WITH ROLLING EYE",
     "SkNO GOOD GESTUREkOK GESTUREaPERSON BOWING DEEPLYaSEE-NO-EVIL MONKEYaHEAR-NO-EVIL MONKEYaS",
     "PEAK-NO-EVIL MONKEYaHAPPY PERSON RAISING ONE HANDaPERSON RAISING BOTH HANDS IN CELEBRATION",
     "hFROWNINGhWITH POUTING FACEmFOLDED HANDSaNORTH WEST POINTING LEAFaSOUTH WEST POINTING LEAF",
     "aNORTH EAST POINTING LEAFaSOUTH EAST POINTING LEAFaTURNED NORTH WEST POINTING LEAFhSOUTH W",
     "EST POINTING LEAFhNORTH EAST POINTING LEAFhSOUTH EAST POINTING LEAFaNORTH WEST POINTING VI",
     "NE LEAFaSOUTH WEST POINTING VINE LEAFaNORTH EAST POINTING VINE LEAFaSOUTH EAST POINTING VI",
     "NE LEAFaHEAVY NORTH WEST POINTING VINE LEAFgSOUTH WEST POINTING VINE LEAFgNORTH EAST POINT",
     "ING VINE LEAFgSOUTH EAST POINTING VINE LEAFaNORTH WEST POINTING BUDaSOUTH WEST POINTING BU",
     "DaNORTH EAST POINTING BUDaSOUTH EAST POINTING BUDaHEAVY NORTH WEST POINTING BUDgSOUTH WEST",
     " POINTING BUDgNORTH EAST POINTING BUDgSOUTH EAST POINTING BUDbOLLOW QUILT SQUARE ORNAMENTz",
     "ENT IN BLACK SQUAREaSOLID QUILT SQUARE ORNAMENTzNT IN BLACK SQUAREaLEFTWARDS ROCKETaUPWARD",
     "S ROCKETaRIGHTWARDS ROCKETaDOWNWARDS ROCKETaSCRIPT LIGATURE ET ORNAMENTaHEAVY SCRIPT LIGAT",
     "URE ET ORNAMENTaLIGATURE OPEN ET ORNAMENTaHEAVY LIGATURE OPEN ET ORNAMENTgAMPERSAND ORNAME",
     "NTaSWASH AMPERSAND ORNAMENTbANS-SERIF HEAVY DOUBLE TURNED COMMA QUOTATION MARK ORNAMENTyCO",
     "MMA QUOTATION MARK ORNAMENTrLOW DOUBLE COMMA QUOTATION MARK ORNAMENTaHEAVY INTERROBANG ORN",
     "AMENTaSANS-SERIF INTERROBANG ORNAMENTaHEAVY SANS-SERIF INTERROBANG ORNAMENTaVERY HEAVY SOL",
     "IDUSlREVERSE SOLIDUSaCHECKER BOARDaREVERSE CHECKER BOARD"]),
    (0x1F680,
    ["aROCKETaHELICOPTERaSTEAM LOCOMOTIVEaRAILWAY CARaHIGH-SPEED TRAINq WITH BULLET NOSEaTRAINaM",
     "ETROaLIGHT RAILaSTATIONaTRAMe CARaBUSaONCOMING BUSaTROLLEYBUSaBUS STOPaMINIBUSaAMBULANCEaF",
     "IRE ENGINEaPOLICE CARaONCOMING POLICE CARaTAXIaONCOMING TAXIaAUTOMOBILEaONCOMING AUTOMOBIL",
     "EaRECREATIONAL VEHICLEaDELIVERY TRUCKaARTICULATED LORRYaTRACTORaMONORAILcUNTAIN RAILWAYaSU",
     "SPENSION RAILWAYaMOUNTAIN CABLEWAYaAERIAL TRAMWAYaSHIPaROWBOATaSPEEDBOATaHORIZONTAL TRAFFI",
     "C LIGHTaVERTICAL TRAFFIC LIGHTaCONSTRUCTION SIGNaPOLICE CARS REVOLVING LIGHTaTRIANGULAR FL",
     "AG ON POSTaDOORaNO ENTRY SIGNaSMOKING SYMBOLaNO SMOKING SYMBOLaPUT LITTER IN ITS PLACE SYM",
     "BOLaDO NOT LITTER SYMBOLaPOTABLE WATER SYMBOLaNON-POTABLE WATER SYMBOLaBICYCLEaNO BICYCLES",
     "aBICYCLISTaMOUNTAIN BICYCLISTaPEDESTRIANaNO PEDESTRIANSaCHILDREN CROSSINGaMENS SYMBOLaWOME",
     "NS SYMBOLaRESTROOMaBABY SYMBOLaTOILETaWATER CLOSETaSHOWER"]),
    (0x1F6C0,
    ["aBATHeTUBaPASSPORT CONTROLaCUSTOMSaBAGGAGE CLAIMaLEFT LUGGAGEaTRIANGLE WITH ROUNDED CORNER",
     "SaPROHIBITED SIGNaCIRCLED INFORMATION SOURCEaBOYS SYMBOLaGIRLS SYMBOLaCOUCH AND LAMPaSLEEP",
     "ING ACCOMMODATIONbHOPPING BAGSaBELLHOP BELLcDaPLACE OF WORSHIPaOCTAGONAL SIGNaSHOPPING TRO",
     "LLEYbTUPAaPAGODAaHINDU TEMPLEbUTaELEVATOR"]),
    (0x1F6DD,
    ["aPLAYGROUND SLIDEaWHEELaRING BUOYaHAMMER AND WRENCHaSHIELDaOIL DRUMaMOTORWAYaRAILWAY TRACK",
     "aMOTOR BOATaUP-POINTING MILITARY AIRPLANEmAIRPLANEmSMALL AIRPLANEaSMALL AIRPLANEaNORTHEAST",
     "-POINTING AIRPLANEaAIRPLANE DEPARTUREjARRIVING"]),
    (0x1F6F0,
    ["aSATELLITEaONCOMING FIRE ENGINEaDIESEL LOCOMOTIVEaPASSENGER SHIPaSCOOTERaMOTOR SCOOTERaCAN",
     "OEaSLEDaFLYING SAUCERaSKATEBOARDaAUTO RICKSHAWaPICKUP TRUCKaROLLER SKATE"]),
    (0x1F700,
    ["aALCHEMICAL SYMBOL FOR QUINTESSENCEwAIRwFIREwEARTHwWATERwAQUAFORTISzA REGIAzA REGIA-2zA VI",
     "TAEzA VITAE-2wVINEGARzEGAR-2zEGAR-3wSULFURwPHILOSOPHERS SULFURwBLACK SULFURwMERCURY SUBLIM",
     "ATEzCURY SUBLIMATE-2zCURY SUBLIMATE-3wCINNABARwSALTwNITREwVITRIOLzRIOL-2wROCK SALTzK SALT-",
     "2wGOLDwSILVERwIRON OREzN ORE-2wCROCUS OF IRONwREGULUS OF IRONwCOPPER OREwIRON-COPPER OREwS",
     "UBLIMATE OF COPPERwCROCUS OF COPPERzCUS OF COPPER-2xOPPER ANTIMONIATEwSALT OF COPPER ANTIM",
     "ONIATExUBLIMATE OF SALT OF COPPERwVERDIGRISwTIN OREwLEAD OREwANTIMONY OREwSUBLIMATE OF ANT",
     "IMONYxALT OF ANTIMONYxUBLIMATE OF SALT OF ANTIMONYwVINEGAR OF ANTIMONYwREGULUS OF ANTIMONY",
     "zULUS OF ANTIMONY-2zULUSzULUS-2zULUS-3zULUS-4wALKALIzALI-2wMARCASITEwSAL-AMMONIACwARSENICw",
     "REALGARzLGAR-2wAURIPIGMENTwBISMUTH OREwTARTAR"]),
    (0x1F740,
    ["aALCHEMICAL SYMBOL FOR TARTAR-2wQUICK LIMEwBORAXzAX-2zAX-3wALUMwOILwSPIRITwTINCTUREwGUMwWA",
     "XwPOWDERwCALXwTUTTYwCAPUT MORTUUMwSCEPTER OF JOVEwCADUCEUSwTRIDENTwSTARRED TRIDENTwLODESTO",
     "NEwSOAPwURINEwHORSE DUNGwASHESwPOT ASHESwBRICKwPOWDERED BRICKwAMALGAMwSTRATUM SUPER STRATU",
     "MzATUM SUPER STRATUM-2xUBLIMATIONwPRECIPITATEwDISTILLzSOLVEzSOLVE-2wPURIFYyTREFACTIONwCRUC",
     "IBLEzCIBLE-2zCIBLE-3zCIBLE-4zCIBLE-5wALEMBICwBATH OF MARYzH OF VAPOURSwRETORTwHOURwNIGHTwD",
     "AY-NIGHTwMONTHwHALF DRAMzF OUNCE"]),
    (0x1F780,
    ["aBLACK LEFT-POINTING ISOSCELES RIGHT TRIANGLEgUP-POINTING ISOSCELES RIGHT TRIANGLEgRIGHT-P",
     "OINTING ISOSCELES RIGHT TRIANGLEgDOWN-POINTING ISOSCELES RIGHT TRIANGLEgSLIGHTLY SMALL CIR",
     "CLEaMEDIUM BOLD WHITE CIRCLEaBOLD WHITE CIRCLEaHEAVY WHITE CIRCLEaVERY HEAVY WHITE CIRCLEa",
     "EXTREMELY HEAVY WHITE CIRCLEaWHITE CIRCLE CONTAINING BLACK SMALL CIRCLEaROUND TARGETaBLACK",
     " TINY SQUAREgSLIGHTLY SMALL SQUAREaLIGHT WHITE SQUAREaMEDIUM WHITE SQUAREaBOLD WHITE SQUAR",
     "EaHEAVY WHITE SQUAREaVERY HEAVY WHITE SQUAREaEXTREMELY HEAVY WHITE SQUAREaWHITE SQUARE CON",
     "TAINING BLACK VERY SMALL SQUAREzLACK MEDIUM SQUAREaSQUARE TARGETaBLACK TINY DIAMONDgVERY S",
     "MALL DIAMONDgMEDIUM SMALL DIAMONDaWHITE DIAMOND CONTAINING BLACK VERY SMALL DIAMONDzBLACK ",
     "MEDIUM DIAMONDaDIAMOND TARGETaBLACK TINY LOZENGEgVERY SMALL LOZENGEgMEDIUM SMALL LOZENGEaW",
     "HITE LOZENGE CONTAINING BLACK SMALL LOZENGEaTHIN GREEK CROSSaLIGHT GREEK CROSSaMEDIUM GREE",
     "K CROSSaBOLD GREEK CROSSaVERY BOLD GREEK CROSSfHEAVY GREEK CROSSaEXTREMELY HEAVY GREEK CRO",
     "SSaTHIN SALTIREaLIGHT SALTIREaMEDIUM SALTIREaBOLD SALTIREaHEAVY SALTIREaVERY HEAVY SALTIRE",
     "aEXTREMELY HEAVY SALTIREaLIGHT FIVE SPOKED ASTERISKaMEDIUM FIVE SPOKED ASTERISKaBOLD FIVE ",
     "SPOKED ASTERISKaHEAVY FIVE SPOKED ASTERISKaVERY HEAVY FIVE SPOKED ASTERISKaEXTREMELY HEAVY",
     " FIVE SPOKED ASTERISKaLIGHT SIX SPOKED ASTERISKaMEDIUM SIX SPOKED ASTERISKaBOLD SIX SPOKED",
     " ASTERISKaHEAVY SIX SPOKED ASTERISKaVERY HEAVY SIX SPOKED ASTERISKaEXTREMELY HEAVY SIX SPO",
     "KED ASTERISKaLIGHT EIGHT SPOKED ASTERISKaMEDIUM EIGHT SPOKED ASTERISKaBOLD EIGHT SPOKED AS",
     "TERISKaHEAVY EIGHT SPOKED ASTERISKaVERY HEAVY EIGHT SPOKED ASTERISK"]),
    (0x1F7C0,
    ["aLIGHT THREE POINTED BLACK STARaMEDIUM THREE POINTED BLACK STARaTHREE POINTED BLACK STARaM",
     "EDIUM THREE POINTED PINWHEEL STARaLIGHT FOUR POINTED BLACK STARaMEDIUM FOUR POINTED BLACK ",
     "STARaFOUR POINTED BLACK STARaMEDIUM FOUR POINTED PINWHEEL STARaREVERSE LIGHT FOUR POINTED ",
     "PINWHEEL STARaLIGHT FIVE POINTED BLACK STARaHEAVY FIVE POINTED BLACK STARaMEDIUM SIX POINT",
     "ED BLACK STARaHEAVY SIX POINTED BLACK STARaSIX POINTED PINWHEEL STARaMEDIUM EIGHT POINTED ",
     "BLACK STARaHEAVY EIGHT POINTED BLACK STARaVERY HEAVY EIGHT POINTED BLACK STARaHEAVY EIGHT ",
     "POINTED PINWHEEL STARaLIGHT TWELVE POINTED BLACK STARaHEAVY TWELVE POINTED BLACK STARvPINW",
     "HEEL STARaCIRCLED TRIANGLEaNEGATIVE CIRCLED TRIANGLEaCIRCLED SQUAREaNEGATIVE CIRCLED SQUAR",
     "E"]),
    (0x1F7E0,
    ["aLARGE ORANGE CIRCLEgYELLOW CIRCLEgGREEN CIRCLEgPURPLE CIRCLEgBROWN CIRCLEgRED SQUAREgBLUE",
     " SQUAREgORANGE SQUAREgYELLOW SQUAREgGREEN SQUAREgPURPLE SQUAREgBROWN SQUARE"]),
    (0x1F7F0,
    ["aHEAVY EQUALS SIGN"]),
    (0x1F800,
    ["aLEFTWARDS ARROW WITH SMALL TRIANGLE ARROWHEADaUPWARDS ARROW WITH SMALL TRIANGLE ARROWHEAD",
     "aRIGHTWARDS ARROW WITH SMALL TRIANGLE ARROWHEADaDOWNWARDS ARROW WITH SMALL TRIANGLE ARROWH",
     "EADaLEFTWARDS ARROW WITH MEDIUM TRIANGLE ARROWHEADaUPWARDS ARROW WITH MEDIUM TRIANGLE ARRO",
     "WHEADaRIGHTWARDS ARROW WITH MEDIUM TRIANGLE ARROWHEADaDOWNWARDS ARROW WITH MEDIUM TRIANGLE",
     " ARROWHEADaLEFTWARDS ARROW WITH LARGE TRIANGLE ARROWHEADaUPWARDS ARROW WITH LARGE TRIANGLE",
     " ARROWHEADaRIGHTWARDS ARROW WITH LARGE TRIANGLE ARROWHEADaDOWNWARDS ARROW WITH LARGE TRIAN",
     "GLE ARROWHEAD"]),
    (0x1F810,
    ["aLEFTWARDS ARROW WITH SMALL EQUILATERAL ARROWHEADaUPWARDS ARROW WITH SMALL EQUILATERAL ARR",
     "OWHEADaRIGHTWARDS ARROW WITH SMALL EQUILATERAL ARROWHEADaDOWNWARDS ARROW WITH SMALL EQUILA",
     "TERAL ARROWHEADaLEFTWARDS ARROW WITH EQUILATERAL ARROWHEADaUPWARDS ARROW WITH EQUILATERAL ",
     "ARROWHEADaRIGHTWARDS ARROW WITH EQUILATERAL ARROWHEADaDOWNWARDS ARROW WITH EQUILATERAL ARR",
     "OWHEADaHEAVY LEFTWARDS ARROW WITH EQUILATERAL ARROWHEADgUPWARDS ARROW WITH EQUILATERAL ARR",
     "OWHEADgRIGHTWARDS ARROW WITH EQUILATERAL ARROWHEADgDOWNWARDS ARROW WITH EQUILATERAL ARROWH",
     "EADgLEFTWARDS ARROW WITH LARGE EQUILATERAL ARROWHEADgUPWARDS ARROW WITH LARGE EQUILATERAL ",
     "ARROWHEADgRIGHTWARDS ARROW WITH LARGE EQUILATERAL ARROWHEADgDOWNWARDS ARROW WITH LARGE EQU",
     "ILATERAL ARROWHEADaLEFTWARDS TRIANGLE-HEADED ARROW WITH NARROW SHAFTaUPWARDS TRIANGLE-HEAD",
     "ED ARROW WITH NARROW SHAFTaRIGHTWARDS TRIANGLE-HEADED ARROW WITH NARROW SHAFTaDOWNWARDS TR",
     "IANGLE-HEADED ARROW WITH NARROW SHAFTaLEFTWARDS TRIANGLE-HEADED ARROW WITH MEDIUM SHAFTaUP",
     "WARDS TRIANGLE-HEADED ARROW WITH MEDIUM SHAFTaRIGHTWARDS TRIANGLE-HEADED ARROW WITH MEDIUM",
     " SHAFTaDOWNWARDS TRIANGLE-HEADED ARROW WITH MEDIUM SHAFTaLEFTWARDS TRIANGLE-HEADED ARROW W",
     "ITH BOLD SHAFTaUPWARDS TRIANGLE-HEADED ARROW WITH BOLD SHAFTaRIGHTWARDS TRIANGLE-HEADED AR",
     "ROW WITH BOLD SHAFTaDOWNWARDS TRIANGLE-HEADED ARROW WITH BOLD SHAFTaLEFTWARDS TRIANGLE-HEA",
     "DED ARROW WITH HEAVY SHAFTaUPWARDS TRIANGLE-HEADED ARROW WITH HEAVY SHAFTaRIGHTWARDS TRIAN",
     "GLE-HEADED ARROW WITH HEAVY SHAFTaDOWNWARDS TRIANGLE-HEADED ARROW WITH HEAVY SHAFTaLEFTWAR",
     "DS TRIANGLE-HEADED ARROW WITH VERY HEAVY SHAFTaUPWARDS TRIANGLE-HEADED ARROW WITH VERY HEA",
     "VY SHAFTaRIGHTWARDS TRIANGLE-HEADED ARROW WITH VERY HEAVY SHAFTaDOWNWARDS TRIANGLE-HEADED ",
     "ARROW WITH VERY HEAVY SHAFTaLEFTWARDS FINGER-POST ARROWaUPWARDS FINGER-POST ARROWaRIGHTWAR",
     "DS FINGER-POST ARROWaDOWNWARDS FINGER-POST ARROWaLEFTWARDS SQUARED ARROWaUPWARDS SQUARED A",
     "RROWaRIGHTWARDS SQUARED ARROWaDOWNWARDS SQUARED ARROWaLEFTWARDS COMPRESSED ARROWaUPWARDS C",
     "OMPRESSED ARROWaRIGHTWARDS COMPRESSED ARROWaDOWNWARDS COMPRESSED ARROWaLEFTWARDS HEAVY COM",
     "PRESSED ARROWaUPWARDS HEAVY COMPRESSED ARROWaRIGHTWARDS HEAVY COMPRESSED ARROWaDOWNWARDS H",
     "EAVY COMPRESSED ARROWaLEFTWARDS HEAVY ARROWaUPWARDS HEAVY ARROWaRIGHTWARDS HEAVY ARROWaDOW",
     "NWARDS HEAVY ARROW"]),
    (0x1F850,
    ["aLEFTWARDS SANS-SERIF ARROWaUPWARDS SANS-SERIF ARROWaRIGHTWARDS SANS-SERIF ARROWaDOWNWARDS",
     " SANS-SERIF ARROWaNORTH WEST SANS-SERIF ARROWgEAST SANS-SERIF ARROWaSOUTH EAST SANS-SERIF ",
     "ARROWgWEST SANS-SERIF ARROWaLEFT RIGHT SANS-SERIF ARROWaUP DOWN SANS-SERIF ARROW"]),
    (0x1F860,
    ["aWIDE-HEADED LEFTWARDS LIGHT BARB ARROWmUPWARDS LIGHT BARB ARROWmRIGHTWARDS LIGHT BARB ARR",
     "OWmDOWNWARDS LIGHT BARB ARROWmNORTH WEST LIGHT BARB ARROWsEAST LIGHT BARB ARROWmSOUTH EAST",
     " LIGHT BARB ARROWsWEST LIGHT BARB ARROWmLEFTWARDS BARB ARROWmUPWARDS BARB ARROWmRIGHTWARDS",
     " BARB ARROWmDOWNWARDS BARB ARROWmNORTH WEST BARB ARROWsEAST BARB ARROWmSOUTH EAST BARB ARR",
     "OWsWEST BARB ARROWmLEFTWARDS MEDIUM BARB ARROWmUPWARDS MEDIUM BARB ARROWmRIGHTWARDS MEDIUM",
     " BARB ARROWmDOWNWARDS MEDIUM BARB ARROWmNORTH WEST MEDIUM BARB ARROWsEAST MEDIUM BARB ARRO",
     "WmSOUTH EAST MEDIUM BARB ARROWsWEST MEDIUM BARB ARROWmLEFTWARDS HEAVY BARB ARROWmUPWARDS H",
     "EAVY BARB ARROWmRIGHTWARDS HEAVY BARB ARROWmDOWNWARDS HEAVY BARB ARROWmNORTH WEST HEAVY BA",
     "RB ARROWsEAST HEAVY BARB ARROWmSOUTH EAST HEAVY BARB ARROWsWEST HEAVY BARB ARROWmLEFTWARDS",
     " VERY HEAVY BARB ARROWmUPWARDS VERY HEAVY BARB ARROWmRIGHTWARDS VERY HEAVY BARB ARROWmDOWN",
     "WARDS VERY HEAVY BARB ARROWmNORTH WEST VERY HEAVY BARB ARROWsEAST VERY HEAVY BARB ARROWmSO",
     "UTH EAST VERY HEAVY BARB ARROWsWEST VERY HEAVY BARB ARROW"]),
    (0x1F890,
    ["aLEFTWARDS TRIANGLE ARROWHEADaUPWARDS TRIANGLE ARROWHEADaRIGHTWARDS TRIANGLE ARROWHEADaDOW",
     "NWARDS TRIANGLE ARROWHEADaLEFTWARDS WHITE ARROW WITHIN TRIANGLE ARROWHEADaUPWARDS WHITE AR",
     "ROW WITHIN TRIANGLE ARROWHEADaRIGHTWARDS WHITE ARROW WITHIN TRIANGLE ARROWHEADaDOWNWARDS W",
     "HITE ARROW WITHIN TRIANGLE ARROWHEADaLEFTWARDS ARROW WITH NOTCHED TAILaUPWARDS ARROW WITH ",
     "NOTCHED TAILaRIGHTWARDS ARROW WITH NOTCHED TAILaDOWNWARDS ARROW WITH NOTCHED TAILaHEAVY AR",
     "ROW SHAFT WIDTH ONEyTWO THIRDSyONE HALFzNE THIRDaLEFTWARDS BOTTOM-SHADED WHITE ARROWaRIGHT",
     "WARDS BOTTOM SHADED WHITE ARROWaLEFTWARDS TOP SHADED WHITE ARROWaRIGHTWARDS TOP SHADED WHI",
     "TE ARROWaLEFTWARDS LEFT-SHADED WHITE ARROWaRIGHTWARDS RIGHT-SHADED WHITE ARROWaLEFTWARDS R",
     "IGHT-SHADED WHITE ARROWaRIGHTWARDS LEFT-SHADED WHITE ARROWaLEFTWARDS BACK-TILTED SHADOWED ",
     "WHITE ARROWaRIGHTWARDS BACK-TILTED SHADOWED WHITE ARROWaLEFTWARDS FRONT-TILTED SHADOWED WH",
     "ITE ARROWaRIGHTWARDS FRONT-TILTED SHADOWED WHITE ARROWaWHITE ARROW SHAFT WIDTH ONEyTWO THI",
     "RDS"]),
    (0x1F8B0,
    ["aARROW POINTING UPWARDS THEN NORTH WESTpRIGHTWARDS THEN CURVING SOUTH WEST"]),
    (0x1F900,
    ["aCIRCLED CROSS FORMEE WITH FOUR DOTSz TWO DOTSuaLEFT HALF CIRCLE WITH FOUR DOTSwTHREE DOTS",
     "xWO DOTSwDOTqaDOWNWARD FACING HOOKqNOTCHED HOOKqHOOK WITH DOTqNOTCHED HOOK WITH DOTaPINCHE",
     "D FINGERSaWHITE HEARTaBROWN HEARTaPINCHING HANDaZIPPER-MOUTH FACEaMONEY-MOUTH FACEaFACE WI",
     "TH THERMOMETERaNERD FACEaTHINKING FACEaFACE WITH HEAD-BANDAGEaROBOT FACEaHUGGING FACEaSIGN",
     " OF THE HORNSaCALL ME HANDaRAISED BACK OF HANDaLEFT-FACING FISTaRIGHT-FACING FISTaHANDSHAK",
     "Ee WITH INDEX AND MIDDLE FINGERS CROSSEDaI LOVE YOU HAND SIGNaFACE WITH COWBOY HATaCLOWN F",
     "ACEaNAUSEATED FACEaROLLING ON THE FLOOR LAUGHINGaDROOLING FACEaLYING FACEaFACE PALMaSNEEZI",
     "NG FACEaFACE WITH ONE EYEBROW RAISEDaGRINNING FACE WITH STAR EYEStONE LARGE AND ONE SMALL ",
     "EYEaFACE WITH FINGER COVERING CLOSED LIPSaSERIOUS FACE WITH SYMBOLS COVERING MOUTHbMILING ",
     "FACE WITH SMILING EYES AND HAND COVERING MOUTHaFACE WITH OPEN MOUTH VOMITINGaSHOCKED FACE ",
     "WITH EXPLODING HEADaPREGNANT WOMANaBREAST-FEEDINGaPALMS UP TOGETHERaSELFIEaPRINCEaMAN IN T",
     "UXEDObOTHER CHRISTMASaSHRUGaPERSON DOING CARTWHEELaJUGGLINGaFENCERaMODERN PENTATHLONaWREST",
     "LERSbATER POLOaHANDBALLaDIVING MASK"]),
    (0x1F940,
    ["aWILTED FLOWERaDRUM WITH DRUMSTICKSaCLINKING GLASSESaTUMBLER GLASSaSPOONaGOAL NETaRIFLEaFI",
     "RST PLACE MEDALaSECOND PLACE MEDALaTHIRD PLACE MEDALaBOXING GLOVEaMARTIAL ARTS UNIFORMaCUR",
     "LING STONEaLACROSSE STICK AND BALLaSOFTBALLaFLYING DISCaCROISSANTaAVOCADOaCUCUMBERaBACONaP",
     "OTATOaCARROTaBAGUETTE BREADaGREEN SALADaSHALLOW PAN OF FOODbTUFFED FLATBREADaEGGaGLASS OF ",
     "MILKaPEANUTSaKIWIFRUITaPANCAKESaDUMPLINGaFORTUNE COOKIEaTAKEOUT BOXaCHOPSTICKSaBOWL WITH S",
     "POONaCUP WITH STRAWbOCONUTaBROCCOLIaPIEbRETZELaCUT OF MEATaSANDWICHaCANNED FOODaLEAFY GREE",
     "NaMANGObOON CAKEaBAGELaSMILING FACE WITH SMILING EYES AND THREE HEARTSaYAWNING FACEaSMILIN",
     "G FACE WITH TEARaFACE WITH PARTY HORN AND PARTY HATkUNEVEN EYES AND WAVY MOUTHaOVERHEATED ",
     "FACEaFREEZING FACEaNINJAaDISGUISED FACEaFACE HOLDING BACK TEARSfWITH PLEADING EYESaSARIaLA",
     "B COATaGOGGLESaHIKING BOOTaFLAT SHOE"]),
    (0x1F980,
    ["aCRABaLION FACEaSCORPIONaTURKEYaUNICORN FACEaEAGLEaDUCKaBATaSHARKaOWLaFOX FACEaBUTTERFLYaD",
     "EERaGORILLAaLIZARDaRHINOCEROSaSHRIMPbQUIDaGIRAFFE FACEaZEBRA FACEaHEDGEHOGaSAUROPODaT-REXa",
     "CRICKETaKANGAROOaLLAMAaPEACOCKaHIPPOPOTAMUSaPARROTaRACCOONaLOBSTERaMOSQUITObICROBEaBADGERa",
     "SWANaMAMMOTHaDODOaSLOTHaOTTERbRANGUTANaSKUNKaFLAMINGOaOYSTERaBEAVERbISONaSEALaGUIDE DOGaPR",
     "OBING CANEaEMOJI COMPONENT RED HAIRqCURLY HAIRqBALDqWHITE HAIRaBONEaLEGaFOOTaTOOTHaSUPERHE",
     "ROfVILLAINbAFETY VESTaEAR WITH HEARING AIDaMOTORIZED WHEELCHAIRbANUAL WHEELCHAIRbECHANICAL",
     " ARMlLEG"]),
    (0x1F9C0,
    ["aCHEESE WEDGEbUPCAKEaSALT SHAKERaBEVERAGE BOXaGARLICaONIONaFALAFELaWAFFLEaBUTTERaMATE DRIN",
     "KaICE CUBEaBUBBLE TEAaTROLLaSTANDING PERSONaKNEELING PERSONaDEAF PERSONaFACE WITH MONOCLEa",
     "ADULTaCHILDaOLDER ADULTaBEARDED PERSONaPERSON WITH HEADSCARFhIN STEAMY ROOMhCLIMBINGhIN LO",
     "TUS POSITIONaMAGEaFAIRYaVAMPIREaMERPERSONaELFaGENIEaZOMBIEaBRAINaORANGE HEARTaBILLED CAPaS",
     "CARFaGLOVESaCOATaSOCKSaRED GIFT ENVELOPEaFIRECRACKERaJIGSAW PUZZLE PIECEaTEST TUBEaPETRI D",
     "ISHaDNA DOUBLE HELIXaCOMPASSaABACUSaFIRE EXTINGUISHERaTOOLBOXaBRICKaMAGNETaLUGGAGEbOTION B",
     "OTTLEaSPOOL OF THREADaBALL OF YARNaSAFETY PINaTEDDY BEARaBROOMbASKETaROLL OF PAPERaBAR OF ",
     "SOAPaSPONGEaRECEIPTaNAZAR AMULET"]),
    (0x1FA00,
    ["aNEUTRAL CHESS KINGoQUEENoROOKoBISHOPoKNIGHToPAWNaWHITE CHESS KNIGHT ROTATED FORTY-FIVE DE",
     "GREESaBLACK CHESS KNIGHT ROTATED FORTY-FIVE DEGREESaNEUTRAL CHESS KNIGHT ROTATED FORTY-FIV",
     "E DEGREESaWHITE CHESS KING ROTATED NINETY DEGREESmQUEEN ROTATED NINETY DEGREESmROOK ROTATE",
     "D NINETY DEGREESmBISHOP ROTATED NINETY DEGREESmKNIGHT ROTATED NINETY DEGREESmPAWN ROTATED ",
     "NINETY DEGREESaBLACK CHESS KING ROTATED NINETY DEGREESmQUEEN ROTATED NINETY DEGREESmROOK R",
     "OTATED NINETY DEGREESmBISHOP ROTATED NINETY DEGREESmKNIGHT ROTATED NINETY DEGREESmPAWN ROT",
     "ATED NINETY DEGREESaNEUTRAL CHESS KING ROTATED NINETY DEGREESoQUEEN ROTATED NINETY DEGREES",
     "oROOK ROTATED NINETY DEGREESoBISHOP ROTATED NINETY DEGREESoKNIGHT ROTATED NINETY DEGREESoP",
     "AWN ROTATED NINETY DEGREESaWHITE CHESS KNIGHT ROTATED ONE HUNDRED THIRTY-FIVE DEGREESaBLAC",
     "K CHESS KNIGHT ROTATED ONE HUNDRED THIRTY-FIVE DEGREESaNEUTRAL CHESS KNIGHT ROTATED ONE HU",
     "NDRED THIRTY-FIVE DEGREESaWHITE CHESS TURNED KINGtQUEENtROOKtBISHOPtKNIGHTtPAWNaBLACK CHES",
     "S TURNED KINGtQUEENtROOKtBISHOPtKNIGHTtPAWNaNEUTRAL CHESS TURNED KINGvQUEENvROOKvBISHOPvKN",
     "IGHTvPAWNaWHITE CHESS KNIGHT ROTATED TWO HUNDRED TWENTY-FIVE DEGREESaBLACK CHESS KNIGHT RO",
     "TATED TWO HUNDRED TWENTY-FIVE DEGREESaNEUTRAL CHESS KNIGHT ROTATED TWO HUNDRED TWENTY-FIVE",
     " DEGREESaWHITE CHESS KING ROTATED TWO HUNDRED SEVENTY DEGREESmQUEEN ROTATED TWO HUNDRED SE",
     "VENTY DEGREESmROOK ROTATED TWO HUNDRED SEVENTY DEGREESmBISHOP ROTATED TWO HUNDRED SEVENTY ",
     "DEGREESmKNIGHT ROTATED TWO HUNDRED SEVENTY DEGREESmPAWN ROTATED TWO HUNDRED SEVENTY DEGREE",
     "SaBLACK CHESS KING ROTATED TWO HUNDRED SEVENTY DEGREESmQUEEN ROTATED TWO HUNDRED SEVENTY D",
     "EGREESmROOK ROTATED TWO HUNDRED SEVENTY DEGREESmBISHOP ROTATED TWO HUNDRED SEVENTY DEGREES",
     "mKNIGHT ROTATED TWO HUNDRED SEVENTY DEGREESmPAWN ROTATED TWO HUNDRED SEVENTY DEGREESaNEUTR",
     "AL CHESS KING ROTATED TWO HUNDRED SEVENTY DEGREES"]),
    (0x1FA40,
    ["aNEUTRAL CHESS QUEEN ROTATED TWO HUNDRED SEVENTY DEGREESoROOK ROTATED TWO HUNDRED SEVENTY ",
     "DEGREESoBISHOP ROTATED TWO HUNDRED SEVENTY DEGREESoKNIGHT ROTATED TWO HUNDRED SEVENTY DEGR",
     "EESoPAWN ROTATED TWO HUNDRED SEVENTY DEGREESaWHITE CHESS KNIGHT ROTATED THREE HUNDRED FIFT",
     "EEN DEGREESaBLACK CHESS KNIGHT ROTATED THREE HUNDRED FIFTEEN DEGREESaNEUTRAL CHESS KNIGHT ",
     "ROTATED THREE HUNDRED FIFTEEN DEGREESaWHITE CHESS EQUIHOPPERaBLACK CHESS EQUIHOPPERaNEUTRA",
     "L CHESS EQUIHOPPERaWHITE CHESS EQUIHOPPER ROTATED NINETY DEGREESaBLACK CHESS EQUIHOPPER RO",
     "TATED NINETY DEGREESaNEUTRAL CHESS EQUIHOPPER ROTATED NINETY DEGREESaWHITE CHESS KNIGHT-QU",
     "EENtROOKtBISHOPaBLACK CHESS KNIGHT-QUEENtROOKtBISHOP"]),
    (0x1FA60,
    ["aXIANGQI RED GENERALmMANDARINmELEPHANTmHORSEmCHARIOTnANNONmSOLDIERiBLACK GENERALoMANDARINo",
     "ELEPHANToHORSEoCHARIOTpANNONoSOLDIER"]),
    (0x1FA70,
    ["aBALLET SHOESaONE-PIECE SWIMSUITaBRIEFSaSHORTSaTHONG SANDAL"]),
    (0x1FA78,
    ["aDROP OF BLOODaADHESIVE BANDAGEaSTETHOSCOPEaX-RAYaCRUTCH"]),
    (0x1FA80,
    ["aYO-YOaKITEaPARACHUTEaBOOMERANGaMAGIC WANDaPINATAaNESTING DOLLS"]),
    (0x1FA90,
    ["aRINGED PLANETaCHAIRaRAZORaAXEaDIYA LAMPaBANJOaMILITARY HELMETaACCORDIONaLONG DRUMaCOINbAR",
     "PENTRY SAWaSCREWDRIVERaLADDERaHOOKaMIRRORaWINDOWaPLUNGERaSEWING NEEDLEaKNOTaBUCKETaMOUSE T",
     "RAPaTOOTHBRUSHaHEADSTONEaPLACARDaROCKaMIRROR BALLaIDENTIFICATION CARDaLOW BATTERYaHAMSA"]),
    (0x1FAB0,
    ["aFLYaWORMaBEETLEaCOCKROACHaPOTTED PLANTaWOODaFEATHERaLOTUSaCORALaEMPTY NESTaNEST WITH EGGS"]),
    (0x1FAC0,
    ["aANATOMICAL HEARTaLUNGSaPEOPLE HUGGINGbREGNANT MANjPERSONbERSON WITH CROWN"]),
    (0x1FAD0,
    ["aBLUEBERRIESbELL PEPPERaOLIVEaFLATBREADaTAMALEaFONDUEaTEAPOTaPOURING LIQUIDaBEANSaJAR"]),
    (0x1FAE0,
    ["aMELTING FACEaSALUTING FACEaFACE WITH OPEN EYES AND HAND OVER MOUTHkPEEKING EYEkDIAGONAL M",
     "OUTHaDOTTED LINE FACEaBITING LIPbUBBLES"]),
    (0x1FAF0,
    ["aHAND WITH INDEX FINGER AND THUMB CROSSEDaRIGHTWARDS HANDaLEFTWARDS HANDaPALM DOWN HANDfUP",
     " HANDaINDEX POINTING AT THE VIEWERaHEART HANDS"]),
    (0x1FB00,
    ["aBLOCK SEXTANT-1o2o12o3o13o23o123o4o14o24o124o34o134o234o1234o5o15o25o125o35o235o1235o45o1",
     "45o245o1245o345o1345o2345o12345o6o16o26o126o36o136o236o1236o46o146p246o346o1346o2346o12346",
     "o56o156o256o1256o356o1356o2356o12356o456o1456o2456o12456o3456o13456o23456aLOWER LEFT BLOCK",
     " DIAGONAL LOWER MIDDLE LEFT TO LOWER CENTREz LOWER MIDDLE LEFT TO LOWER RIGHTz UPPER MIDDL",
     "E LEFT TO LOWER CENTREz UPPER MIDDLE LEFT TO LOWER RIGHT"]),
    (0x1FB40,
    ["aLOWER LEFT BLOCK DIAGONAL UPPER LEFT TO LOWER CENTREgRIGHT BLOCK DIAGONAL UPPER MIDDLE LE",
     "FT TO UPPER CENTREzL UPPER MIDDLE LEFT TO UPPER RIGHTzL LOWER MIDDLE LEFT TO UPPER CENTREz",
     "L LOWER MIDDLE LEFT TO UPPER RIGHTzL LOWER LEFT TO UPPER CENTREzL LOWER MIDDLE LEFT TO UPP",
     "ER MIDDLE RIGHTzL LOWER CENTRE TO LOWER MIDDLE RIGHTzL LOWER LEFT TO LOWER MIDDLE RIGHTzL ",
     "LOWER CENTRE TO UPPER MIDDLE RIGHTzL LOWER LEFT TO UPPER MIDDLE RIGHTzL LOWER CENTRE TO UP",
     "PER RIGHTgLEFT BLOCK DIAGONAL UPPER CENTRE TO UPPER MIDDLE RIGHTz UPPER LEFT TO UPPER MIDD",
     "LE RIGHTz UPPER CENTRE TO LOWER MIDDLE RIGHTz UPPER LEFT TO LOWER MIDDLE RIGHTz UPPER CENT",
     "RE TO LOWER RIGHTz UPPER MIDDLE LEFT TO LOWER MIDDLE RIGHTaUPPER RIGHT BLOCK DIAGONAL LOWE",
     "R MIDDLE LEFT TO LOWER CENTREzL LOWER MIDDLE LEFT TO LOWER RIGHTzL UPPER MIDDLE LEFT TO LO",
     "WER CENTREzL UPPER MIDDLE LEFT TO LOWER RIGHTzL UPPER LEFT TO LOWER CENTREgLEFT BLOCK DIAG",
     "ONAL UPPER MIDDLE LEFT TO UPPER CENTREz UPPER MIDDLE LEFT TO UPPER RIGHTz LOWER MIDDLE LEF",
     "T TO UPPER CENTREz LOWER MIDDLE LEFT TO UPPER RIGHTz LOWER LEFT TO UPPER CENTREz LOWER MID",
     "DLE LEFT TO UPPER MIDDLE RIGHTz LOWER CENTRE TO LOWER MIDDLE RIGHTz LOWER LEFT TO LOWER MI",
     "DDLE RIGHTz LOWER CENTRE TO UPPER MIDDLE RIGHTz LOWER LEFT TO UPPER MIDDLE RIGHTz LOWER CE",
     "NTRE TO UPPER RIGHTgRIGHT BLOCK DIAGONAL UPPER CENTRE TO UPPER MIDDLE RIGHTzL UPPER LEFT T",
     "O UPPER MIDDLE RIGHTzL UPPER CENTRE TO LOWER MIDDLE RIGHTzL UPPER LEFT TO LOWER MIDDLE RIG",
     "HTzL UPPER CENTRE TO LOWER RIGHTzL UPPER MIDDLE LEFT TO LOWER MIDDLE RIGHTgAND RIGHT AND L",
     "OWER TRIANGULAR THREE QUARTERS BLOCKaLEFT AND LOWER AND RIGHT TRIANGULAR THREE QUARTERS BL",
     "OCKaUPPER AND LEFT AND LOWER TRIANGULAR THREE QUARTERS BLOCKaLEFT AND UPPER AND RIGHT TRIA",
     "NGULAR THREE QUARTERS BLOCKfTRIANGULAR ONE QUARTER BLOCKaUPPER TRIANGULAR ONE QUARTER BLOC",
     "KaRIGHT TRIANGULAR ONE QUARTER BLOCKaLOWER TRIANGULAR ONE QUARTER BLOCKaVERTICAL ONE EIGHT",
     "H BLOCK-2z-3z-4z-5z-6z-7aHORIZONTAL ONE EIGHTH BLOCK-2zCK-3zCK-4zCK-5zCK-6zCK-7aLEFT AND L",
     "OWER ONE EIGHTH BLOCKjUPPER ONE EIGHTH BLOCKaRIGHT AND UPPER ONE EIGHTH BLOCKkLOWER ONE EI",
     "GHTH BLOCK"]),
    (0x1FB80,
    ["aUPPER AND LOWER ONE EIGHTH BLOCKaHORIZONTAL ONE EIGHTH BLOCK-1358aUPPER ONE QUARTER BLOCK",
     "gTHREE EIGHTHS BLOCKgFIVE EIGHTHS BLOCKgTHREE QUARTERS BLOCKgSEVEN EIGHTHS BLOCKaRIGHT ONE",
     " QUARTER BLOCKgTHREE EIGHTHS BLOCKgFIVE EIGHTHS BLOCKgTHREE QUARTERS BLOCKgSEVEN EIGHTHS B",
     "LOCKaLEFT HALF MEDIUM SHADEaRIGHT HALF MEDIUM SHADEaUPPER HALF MEDIUM SHADEaLOWER HALF MED",
     "IUM SHADEaINVERSE MEDIUM SHADEaUPPER HALF BLOCK AND LOWER HALF INVERSE MEDIUM SHADElINVERS",
     "E MEDIUM SHADE AND LOWER HALF BLOCK"]),
    (0x1FB94,
    ["aLEFT HALF INVERSE MEDIUM SHADE AND RIGHT HALF BLOCKaCHECKER BOARD FILLaINVERSE CHECKER BO",
     "ARD FILLaHEAVY HORIZONTAL FILLaUPPER LEFT TO LOWER RIGHT FILLgRIGHT TO LOWER LEFT FILLgAND",
     " LOWER TRIANGULAR HALF BLOCKaLEFT AND RIGHT TRIANGULAR HALF BLOCKaUPPER LEFT TRIANGULAR ME",
     "DIUM SHADEgRIGHT TRIANGULAR MEDIUM SHADEaLOWER RIGHT TRIANGULAR MEDIUM SHADEgLEFT TRIANGUL",
     "AR MEDIUM SHADEaBOX DRAWINGS LIGHT DIAGONAL UPPER CENTRE TO MIDDLE LEFTzAL UPPER CENTRE TO",
     " MIDDLE RIGHTzAL MIDDLE LEFT TO LOWER CENTREzAL MIDDLE RIGHT TO LOWER CENTREzAL UPPER CENT",
     "RE TO MIDDLE LEFT TO LOWER CENTREzAL UPPER CENTRE TO MIDDLE RIGHT TO LOWER CENTREzAL MIDDL",
     "E LEFT TO LOWER CENTRE TO MIDDLE RIGHTzAL MIDDLE LEFT TO UPPER CENTRE TO MIDDLE RIGHTzAL U",
     "PPER CENTRE TO MIDDLE LEFT AND MIDDLE RIGHT TO LOWER CENTREzAL UPPER CENTRE TO MIDDLE RIGH",
     "T AND MIDDLE LEFT TO LOWER CENTREzAL UPPER CENTRE TO MIDDLE RIGHT TO LOWER CENTRE TO MIDDL",
     "E LEFTzAL UPPER CENTRE TO MIDDLE LEFT TO LOWER CENTRE TO MIDDLE RIGHTzAL MIDDLE LEFT TO UP",
     "PER CENTRE TO MIDDLE RIGHT TO LOWER CENTREzAL MIDDLE RIGHT TO UPPER CENTRE TO MIDDLE LEFT ",
     "TO LOWER CENTREzAL DIAMONDtHORIZONTAL WITH VERTICAL STROKEaARROWHEAD-SHAPED POINTERaINVERS",
     "E CHECK MARKaLEFT HALF RUNNING MANaRIGHT HALF RUNNING MANaINVERSE DOWNWARDS ARROW WITH TIP",
     " LEFTWARDSaLEFTWARDS ARROW AND UPPER AND LOWER ONE EIGHTH BLOCKaRIGHTWARDS ARROW AND UPPER",
     " AND LOWER ONE EIGHTH BLOCKaDOWNWARDS ARROW AND RIGHT ONE EIGHTH BLOCKaUPWARDS ARROW AND R",
     "IGHT ONE EIGHTH BLOCKaLEFT HALF FOLDERaRIGHT HALF FOLDERaVOIDED GREEK CROSSaRIGHT OPEN SQU",
     "ARED DOTaNEGATIVE DIAGONAL CROSSsMIDDLE RIGHT TO LOWER CENTREsDIAMONDaWHITE HEAVY SALTIRE ",
     "WITH ROUNDED CORNERSaLEFT THIRD WHITE RIGHT POINTING INDEXaMIDDLE THIRD WHITE RIGHT POINTI",
     "NG INDEXaRIGHT THIRD WHITE RIGHT POINTING INDEXaNEGATIVE SQUARED QUESTION MARKaSTICK FIGUR",
     "Em WITH ARMS RAISEDnLEANING LEFTvRIGHTnWITH DRESSaWHITE UP-POINTING CHEVRON"]),
    (0x1FBF0,
    ["aSEGMENTED DIGIT ZEROqONEqTWOrHREEqFOURrIVEqSIXrEVENqEIGHTqNINE"]),
    (0xE0001,
    ["aLANGUAGE TAG"]),
    (0xE0020,
    ["aTAG SPACEeEXCLAMATION MARKeQUOTATION MARKeNUMBER SIGNeDOLLAR SIGNePERCENT SIGNeAMPERSANDf",
     "POSTROPHEeLEFT PARENTHESISeRIGHT PARENTHESISeASTERISKePLUS SIGNeCOMMAeHYPHEN-MINUSeFULL ST",
     "OPeSOLIDUSeDIGIT ZEROkONEkTWOlHREEkFOURlIVEkSIXlEVENkEIGHTkNINEeCOLONeSEMICOLONeLESS-THAN ",
     "SIGNeEQUALS SIGNeGREATER-THAN SIGNeQUESTION MARKeCOMMERCIAL ATeLATIN CAPITAL LETTER AzBzCz",
     "DzEzFzGzHzIzJzKzLzMzNzOzPzQzRzSzTzUzVzWzXzYzZfEFT SQUARE BRACKETeREVERSE SOLIDUSfIGHT SQUA",
     "RE BRACKETeCIRCUMFLEX ACCENTeLOW LINE"]),
    (0xE0060,
    ["aTAG GRAVE ACCENTeLATIN SMALL LETTER AxBxCxDxExFxGxHxIxJxKxLxMxNxOxPxQxRxSxTxUxVxWxXxYxZfE",
     "FT CURLY BRACKETeVERTICAL LINEeRIGHT CURLY BRACKETeTILDEaCANCEL TAG"]),
    (0xE0100,
    ["aVARIATION SELECTOR-17u8u9t20u1u2u3u4u5u6u7u8u9t30u1u2u3u4u5u6u7u8u9t40u1u2u3u4u5u6u7u8u9t",
     "50u1u2u3u4u5u6u7u8u9t60u1u2u3u4u5u6u7u8u9t70u1u2u3u4u5u6u7u8u9t80"]),
    (0xE0140,
    ["aVARIATION SELECTOR-81u2u3u4u5u6u7u8u9t90u1u2u3u4u5u6u7u8u9t100v1v2v3v4v5v6v7v8v9u10v1v2v3",
     "v4v5v6v7v8v9u20v1v2v3v4v5v6v7v8v9u30v1v2v3v4v5v6v7v8v9u40v1v2v3v4"]),
    (0xE0180,
    ["aVARIATION SELECTOR-145v6v7v8v9u50v1v2v3v4v5v6v7v8v9u60v1v2v3v4v5v6v7v8v9u70v1v2v3v4v5v6v7",
     "v8v9u80v1v2v3v4v5v6v7v8v9u90v1v2v3v4v5v6v7v8v9t200v1v2v3v4v5v6v7v8"]),
    (0xE01C0,
    ["aVARIATION SELECTOR-209u10v1v2v3v4v5v6v7v8v9u20v1v2v3v4v5v6v7v8v9u30v1v2v3v4v5v6v7v8v9u40v",
     "1v2v3v4v5v6v7v8v9u50v1v2v3v4v5v6"])]

end MockApi.Text
