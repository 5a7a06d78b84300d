/-!
# Names of characters: U+1000 to U+1FFE

* `namesFrom1000` : runs of characters with their names, in the form that `Text.charOfName?` reads.

The names are those of Unicode 14.
-/

namespace MockApi.Text

def namesFrom1000 : List (Nat × List String) :=
   [(0x1000,
    ["aMYANMAR LETTER KAqHApGAqHApNGApCAqHApJAqHApNYAqNYApTTArHApDDArHApNNApTAqHApDAqHApNApPAqHA",
     "pBAqHApMApYApRApLApWApSApHApLLApApSHAN ApIqIpUqUpEpMON EpOpAUiVOWEL SIGN TALL AAtAAtIuItUu",
     "UtEtAItMON IIxOtE ABOVEiSIGN ANUSVARAnDOT BELOWnVISARGApRAMAnASATiCONSONANT SIGN MEDIAL YA",
     "zDIAL RAzDIAL WAzDIAL HAiLETTER GREAT SA"]),
    (0x1040,
    ["aMYANMAR DIGIT ZEROoONEoTWOpHREEoFOURpIVEoSIXpEVENoEIGHToNINEiSIGN LITTLE SECTIONnSECTIONj",
     "YMBOL LOCATIVEpCOMPLETEDpAFOREMENTIONEDpGENITIVEiLETTER SHAqSApVOCALIC RyRxLyLiVOWEL SIGN ",
     "VOCALIC RzC RRzC LzC LLiLETTER MON NGAtJHAtBBAvEiCONSONANT SIGN MON MEDIAL NAzN MEDIAL MAz",
     "N MEDIAL LAiLETTER SGAW KAREN SHAiVOWEL SIGN SGAW KAREN EUiTONE MARK SGAW KAREN HATHIzREN ",
     "KE PHOiLETTER WESTERN PWO KAREN THAzO KAREN PWAiVOWEL SIGN WESTERN PWO KAREN EUzN PWO KARE",
     "N UEiSIGN WESTERN PWO KAREN TONE-1zKAREN TONE-2zKAREN TONE-3zKAREN TONE-4zKAREN TONE-5iLET",
     "TER EASTERN PWO KAREN NNAzO KAREN YWAzO KAREN GHWAiVOWEL SIGN GEBA KAREN ItKAYAH OEzUzEEiL",
     "ETTER SHAN KAvHAuGAuCAuZAuNYAuDAuNAuPHAuFAuBA"]),
    (0x1080,
    ["aMYANMAR LETTER SHAN THAuHAiCONSONANT SIGN SHAN MEDIAL WAiVOWEL SIGN SHAN AAyEz ABOVEyFINA",
     "L YiSIGN SHAN TONE-2x3x5x6sCOUNCIL TONE-2z TONE-3z EMPHATIC TONEiLETTER RUMAI PALAUNG FAiS",
     "IGN RUMAI PALAUNG TONE-5jHAN DIGIT ZEROtONEtTWOuHREEtFOURuIVEtSIXuEVENtEIGHTtNINEjIGN KHAM",
     "TI TONE-1z3iVOWEL SIGN AITON AzAIiSYMBOL SHAN ONEuEXCLAMATIONaGEORGIAN CAPITAL LETTER ANyB",
     "ANyGANyDONyENyVINyZENyTANyINyKANyLASyMANyNARyONyPARyZHARyRAEySANyTARyUNyPHARyKHARyGHANyQAR",
     "ySHINyCHINzANyJILyCILzHARyXANyJHAN"]),
    (0x10C0,
    ["aGEORGIAN CAPITAL LETTER HAEzEzIEyWEyHARzOE"]),
    (0x10C7,
    ["aGEORGIAN CAPITAL LETTER YN"]),
    (0x10CD,
    ["aGEORGIAN CAPITAL LETTER AEN"]),
    (0x10D0,
    ["aGEORGIAN LETTER ANqBANqGANqDONqENqVINqZENqTANqINqKANqLASqMANqNARqONqPARqZHARqRAEqSANqTARq",
     "UNqPHARqKHARqGHANqQARqSHINqCHINrANqJILqCILrHARqXANqJHANqHAErErIEqWEqHARrOEqFIqYNqELIFIqTUR",
     "NED GANqAINjPARAGRAPH SEPARATORaMODIFIER LETTER GEORGIAN NARaGEORGIAN LETTER AENqHARD SIGN",
     "qLABIAL SIGNaHANGUL CHOSEONG KIYEOKqSSANGKIYEOKqNIEUNqTIKEUTqSSANGTIKEUTqRIEULqMIEUMqPIEUP",
     "qSSANGPIEUPrIOSrSANGSIOSqIEUNGqCIEUCqSSANGCIEUCqCHIEUCHqKHIEUKH"]),
    (0x1110,
    ["aHANGUL CHOSEONG THIEUTHqPHIEUPHqHIEUHqNIEUN-KIYEOKqSSANGNIEUNqNIEUN-TIKEUTwPIEUPqTIKEUT-K",
     "IYEOKqRIEUL-NIEUNqSSANGRIEULqRIEUL-HIEUHqKAPYEOUNRIEULqMIEUM-PIEUPqKAPYEOUNMIEUMqPIEUP-KIY",
     "EOKwNIEUNwTIKEUTwSIOSzS-KIYEOKzS-TIKEUTzS-PIEUPxSANGSIOSxIOS-CIEUCwCIEUCxHIEUCHwTHIEUTHwPH",
     "IEUPHqKAPYEOUNPIEUPySSANGPIEUPqSIOS-KIYEOKvNIEUNvTIKEUTvRIEULvMIEUMvPIEUPzP-KIYEOKvSSANGSI",
     "OSvIEUNGvCIEUCwHIEUCHvKHIEUKHvTHIEUTHvPHIEUPHvHIEUHqCHITUEUMSIOSzSANGSIOSrEONGCHIEUMSIOSzU",
     "MSSANGSIOSqPANSIOSqIEUNG-KIYEOKwTIKEUTwMIEUMwPIEUPwSIOSwPANSIOSqSSANGIEUNGqIEUNG-CIEUCxHIE",
     "UCHwTHIEUTHwPHIEUPHqYESIEUNGqCIEUC-IEUNGrHITUEUMCIEUCySSANGCIEUC"]),
    (0x1150,
    ["aHANGUL CHOSEONG CEONGCHIEUMCIEUCzUMSSANGCIEUCrHIEUCH-KHIEUKHyHIEUHtTUEUMCHIEUCHrEONGCHIEU",
     "MCHIEUCHqPHIEUPH-PIEUPqKAPYEOUNPHIEUPHqSSANGHIEUHqYEORINHIEUHqKIYEOK-TIKEUTqNIEUN-SIOSwCIE",
     "UCwHIEUHqTIKEUT-RIEULqFILLERhJUNGSEONG FILLERrAsErYAtErEOsrYEOtrOrWAtErOErYOrUrWEOtsIrYUrE",
     "UrYIrIrA-OtUrYA-OuYOrEO-OuUuEUrYEO-OvUrO-EOutYEtOtUrYO-YAwEvEOuOuIrU-AuEtEO-EUtYEtUrYU-AuE",
     "O"]),
    (0x1190,
    ["aHANGUL JUNGSEONG YU-EuYEOwuUuIrEU-UuEUrYI-UrI-AtYAtOtUtEUtARAEArARAEAw-EOxUxIrSSANGARAEAr",
     "A-EUrYA-UsEO-YArO-YAvEiONGSEONG KIYEOKrSSANGKIYEOKrKIYEOK-SIOSrNIEUNw-CIEUCxHIEUHrTIKEUTrR",
     "IEULw-KIYEOKxMIEUMxPIEUPxSIOSxTHIEUTHxPHIEUPHxHIEUHrMIEUMrPIEUPw-SIOSrSIOSsSANGSIOSrIEUNGr",
     "CIEUCsHIEUCHrKHIEUKHrTHIEUTHrPHIEUPHrHIEUHrKIYEOK-RIEULySIOS-KIYEOKrNIEUN-KIYEOKxTIKEUTxSI",
     "OSxPANSIOSxTHIEUTHrTIKEUT-KIYEOKyRIEULrRIEUL-KIYEOK-SIOSxNIEUNxTIKEUTzKEUT-HIEUH"]),
    (0x11D0,
    ["aHANGUL JONGSEONG SSANGRIEULrRIEUL-MIEUM-KIYEOKzEUM-SIOSxPIEUP-SIOSzEUP-HIEUHxKAPYEOUNPIEU",
     "PxSSANGSIOSxPANSIOSxKHIEUKHxYEORINHIEUHrMIEUM-KIYEOKxRIEULxPIEUPxSIOSySANGSIOSxPANSIOSxCHI",
     "EUCHxHIEUHrKAPYEOUNMIEUMrPIEUP-RIEULxPHIEUPHxHIEUHrKAPYEOUNPIEUPrSIOS-KIYEOKwTIKEUTwRIEULw",
     "PIEUPrPANSIOSrIEUNG-KIYEOKxSSANGKIYEOKrSSANGIEUNGrIEUNG-KHIEUKHrYESIEUNGz-SIOSz-PANSIOSrPH",
     "IEUPH-PIEUPrKAPYEOUNPHIEUPHrHIEUH-NIEUNxRIEULxMIEUMxPIEUPrYEORINHIEUHrKIYEOK-NIEUNyPIEUPyC",
     "HIEUCHyKHIEUKHyHIEUHrSSANGNIEUNaETHIOPIC SYLLABLE HAtUtItAAtEEutOuAsLAtUtItAAtEEutOtWA"]),
    (0x1210,
    ["aETHIOPIC SYLLABLE HHAuUuIuAAuEEvuOuWAsMAtUtItAAtEEutOtWAsSZAuUuIuAAuEEvuOuWAsRAtUtItAAtEE",
     "utOtWAsSAtUtItAAtEEutOtWAtHAuUuIuAAuEEvuOuWAsQAtUtItAAtEEutOuAtWA"]),
    (0x124A,
    ["aETHIOPIC SYLLABLE QWIuAAuEEv"]),
    (0x1250,
    ["aETHIOPIC SYLLABLE QHAuUuIuAAuEEvuO"]),
    (0x1258,
    ["aETHIOPIC SYLLABLE QHWA"]),
    (0x125A,
    ["aETHIOPIC SYLLABLE QHWIvAAvEEw"]),
    (0x1260,
    ["aETHIOPIC SYLLABLE BAtUtItAAtEEutOtWAsVAtUtItAAtEEutOtWAsTAtUtItAAtEEutOtWAsCAtUtItAAtEEut",
     "OtWAsXAtUtItAAtEEutOuAtWA"]),
    (0x128A,
    ["aETHIOPIC SYLLABLE XWIuAAuEEv"]),
    (0x1290,
    ["aETHIOPIC SYLLABLE NAtUtItAAtEEutOtWAtYAuUuIuAAuEEvuOuWAsGLOTTAL Az Uz Iz AAz EEz Ez Oz WA",
     "sKAtUtItAAtEEutOuAtWA"]),
    (0x12B2,
    ["aETHIOPIC SYLLABLE KWIuAAuEEv"]),
    (0x12B8,
    ["aETHIOPIC SYLLABLE KXAuUuIuAAuEEvuO"]),
    (0x12C0,
    ["aETHIOPIC SYLLABLE KXWA"]),
    (0x12C2,
    ["aETHIOPIC SYLLABLE KXWIvAAvEEw"]),
    (0x12C8,
    ["aETHIOPIC SYLLABLE WAtUtItAAtEEutOuAsPHARYNGEAL AzEAL UzEAL IzEAL AAzEAL EEzEAL EzEAL O"]),
    (0x12D8,
    ["aETHIOPIC SYLLABLE ZAtUtItAAtEEutOtWAtHAuUuIuAAuEEvuOuWAsYAtUtItAAtEEutOuAsDAtUtItAAtEEutO",
     "tWAtDAuUuIuAAuEEvuOuWAsJAtUtItAAtEEutOtWAsGAtUtItAAtEEutOuAtWA"]),
    (0x1312,
    ["aETHIOPIC SYLLABLE GWIuAAuEEv"]),
    (0x1318,
    ["aETHIOPIC SYLLABLE GGAuUuIuAAuEEvuOuWAAsTHAuUuIuAAuEEvuOuWAsCHAuUuIuAAuEEvuOuWAsPHAuUuIuAA",
     "uEEvuOuWAsTSAuUuIuAAuEEvuOuWAtZAuUuIuAAuEEvuOvAsFAtUtItAAtEEutOtWAsPAtUtItAAtEEutOtWA"]),
    (0x1358,
    ["aETHIOPIC SYLLABLE RYAsMYAsFYA"]),
    (0x135D,
    ["aETHIOPIC COMBINING GEMINATION AND VOWEL LENGTH MARKtVOWEL LENGTH MARKtGEMINATION MARKjSEC",
     "TION MARKjWORDSPACEjFULL STOPjCOMMAjSEMICOLONjCOLONjPREFACE COLONjQUESTION MARKjPARAGRAPH ",
     "SEPARATORjDIGIT ONEpTWOqHREEpFOURqIVEpSIXqEVENpEIGHTpNINEjNUMBER TENrWENTYrHIRTYqFORTYrIFT",
     "YqSIXTYrEVENTYqEIGHTYqNINETYqHUNDREDqTEN THOUSAND"]),
    (0x1380,
    ["aETHIOPIC SYLLABLE SEBATBEIT MWAsMWIuEEvsSEBATBEIT BWAsBWIuEEvsSEBATBEIT FWAsFWIuEEvsSEBAT",
     "BEIT PWAsPWIuEEvjTONAL MARK YIZETuDERETuRIKRIKuSHORT RIKRIKuDIFATuKENATuCHIRETuHIDETuDERET",
     "-HIDETuKURT"]),
    (0x13A0,
    ["aCHEROKEE LETTER AqEqIqOqUqVqGAqKAqGErIrOrUrVqHArErIrOrUrVqLArErIrOrUrVqMArErIrOrUqNAqHNAq",
     "NAHrErIrOrUrVqQUAsEsIsOsUsVqSArrErIrOrUrVqDAqTAqDEqTEqDIqTIqDOrUrVrLAqTLAsEsI"]),
    (0x13E0,
    ["aCHEROKEE LETTER TLOsUsVrSAsEsIsOsUsVqWArErIrOrUrVqYArErIrOrUrVqMV"]),
    (0x13F8,
    ["aCHEROKEE SMALL LETTER YExIxOxUxVwMV"]),
    (0x1400,
    ["aCANADIAN SYLLABICS HYPHENtEtAAItIuItOuOtY-CREE OOtCARRIER EEzR ItAuAtWEvST-CREE WEuIuEST-",
     "CREE WIuIIuEST-CREE WIIuOuEST-CREE WOuOOuEST-CREE WOOtNASKAPI WOOtWAuEST-CREE WAuAAuEST-CR",
     "EE WAAtNASKAPI WAAtAItY-CREE WtGLOTTAL STOPtFINAL ACUTEzGRAVEzBOTTOM HALF RINGzTOP HALF RI",
     "NGzRIGHT HALF RINGzRINGzDOUBLE ACUTEzDOUBLE SHORT VERTICAL STROKESzMIDDLE DOTzSHORT HORIZO",
     "NTAL STROKEzPLUSzDOWN TACKtENtINtONtANtPEuAAIuIvIuOvOtY-CREE POOtCARRIER HEEzR HItPAvAuWEt",
     "WEST-CREE PWEtPWItWEST-CREE PWItPWIItWEST-CREE PWII"]),
    (0x1440,
    ["aCANADIAN SYLLABICS PWOtWEST-CREE PWOtPWOOtWEST-CREE PWOOtPWAtWEST-CREE PWAtPWAAtWEST-CREE",
     " PWAAtY-CREE PWAAtPtWEST-CREE PtCARRIER HtTEuAAIuIvIuOvOtY-CREE TOOtCARRIER DEEzR DItTAvAu",
     "WEtWEST-CREE TWEtTWItWEST-CREE TWItTWIItWEST-CREE TWIItTWOtWEST-CREE TWOtTWOOtWEST-CREE TW",
     "OOtTWAtWEST-CREE TWAtTWAAtWEST-CREE TWAAtNASKAPI TWAAtTuTEvIvOvAtKEuAAIuIvIuOvOtY-CREE KOO",
     "tKAvAuWEtWEST-CREE KWEtKWItWEST-CREE KWItKWIItWEST-CREE KWIItKWOtWEST-CREE KWOtKWOOtWEST-C",
     "REE KWOOtKWAtWEST-CREE KWA"]),
    (0x1480,
    ["aCANADIAN SYLLABICS KWAAtWEST-CREE KWAAtNASKAPI KWAAtKuWtSOUTH-SLAVEY KEHzSLAVEY KIHzSLAVE",
     "Y KOHzSLAVEY KAHtCEuAAIuIvIuOvOtY-CREE COOtCAvAuWEtWEST-CREE CWEtCWItWEST-CREE CWItCWIItWE",
     "ST-CREE CWIItCWOtWEST-CREE CWOtCWOOtWEST-CREE CWOOtCWAtWEST-CREE CWAtCWAAtWEST-CREE CWAAtN",
     "ASKAPI CWAAtCtSAYISI THtMEuAAIuIvIuOvOtY-CREE MOOtMAvAuWEtWEST-CREE MWEtMWItWEST-CREE MWIt",
     "MWIItWEST-CREE MWIItMWOtWEST-CREE MWOtMWOOtWEST-CREE MWOOtMWAtWEST-CREE MWAtMWAAtWEST-CREE",
     " MWAAtNASKAPI MWAAtMtWEST-CREE MtMHtATHAPASCAN MtSAYISI M"]),
    (0x14C0,
    ["aCANADIAN SYLLABICS NEuAAIuIvIuOvOtY-CREE NOOtNAvAuWEtWEST-CREE NWEtNWAtWEST-CREE NWAtNWAA",
     "tWEST-CREE NWAAtNASKAPI NWAAutCARRIER NGtNHtLEuAAIuIvIuOvOtY-CREE LOOtLAvAuWEtWEST-CREE LW",
     "EtLWItWEST-CREE LWItLWIItWEST-CREE LWIItLWOtWEST-CREE LWOtLWOOtWEST-CREE LWOOtLWAtWEST-CRE",
     "E LWAtLWAAtWEST-CREE LWAAtLtWEST-CREE LtMEDIAL LtSEuAAIuIvIuOvOtY-CREE SOOtSAvAuWEtWEST-CR",
     "EE SWEtSWItWEST-CREE SWItSWIItWEST-CREE SWIItSWOtWEST-CREE SWOtSWOOtWEST-CREE SWOO"]),
    (0x1500,
    ["aCANADIAN SYLLABICS SWAtWEST-CREE SWAtSWAAtWEST-CREE SWAAtNASKAPI SWAAtStATHAPASCAN StSWtB",
     "LACKFOOT StMOOSE-CREE SKtNASKAPI SKWzI S-WzI SPWAzI STWAzI SKWAzI SCWAtSHEvIwIvOwOvAwAvWEt",
     "WEST-CREE SHWEtSHWItWEST-CREE SHWItSHWIItWEST-CREE SHWIItSHWOtWEST-CREE SHWOtSHWOOtWEST-CR",
     "EE SHWOOtSHWAtWEST-CREE SHWAtSHWAAtWEST-CREE SHWAAtSHtYEuAAIuIvIuOvOu-CREE YOOuAvAuWEtWEST",
     "-CREE YWEtYWItWEST-CREE YWItYWIItWEST-CREE YWIItYWOtWEST-CREE YWOtYWOOtWEST-CREE YWOOtYWAt",
     "WEST-CREE YWAtYWAAtWEST-CREE YWAAtNASKAPI YWAAtYtBIBLE-CREE Y"]),
    (0x1540,
    ["aCANADIAN SYLLABICS WEST-CREE YtSAYISI YItREu-CREE REtWEST-CREE LEtRAAIuIvIuOvOtWEST-CREE ",
     "LOtRAvAtWEST-CREE LAtRWAAtWEST-CREE RWAAtRtWEST-CREE RtMEDIAL RtFEuAAIuIvIuOvOuAvAuWAAtWES",
     "T-CREE FWAAtFtTHEtN-CREE THEtTHItN-CREE THItTHIItN-CREE THIItTHOwOvAwAvWAAtWEST-CREE THWAA",
     "tTHuTHEwIwOwAwuYEvIvOvAtNUNAVIK HEzK HIzK HIIzK HOzK HOOzK HAzK HAAzK HyUT HtHKtQAAIuI"]),
    (0x1580,
    ["aCANADIAN SYLLABICS QIIuOvOuAvAutTLHEwIwOwAtWEST-CREE REzREE RIzREE ROzREE RAtNGAAIvIwIvOw",
     "OvAwAvuNGtSAYISI SHEz SHIz SHOz SHAtWOODS-CREE THEzCREE THIzCREE THOzCREE THAzCREE THtLHIw",
     "IvOwOvAwAvtTH-CREE THEzE THIzE THIIzE THOzE THOOzE THAzE THAAzE THtAIVILIK BtBLACKFOOT EzO",
     "OT IzOOT OzOOT AzOOT WEzOOT WIzOOT WOzOOT WAzOOT NEzOOT NIzOOT NOzOOT NAzOOT KEzOOT KIzOOT",
     " KOzOOT KA"]),
    (0x15C0,
    ["aCANADIAN SYLLABICS SAYISI HEz HIz HOz HAtCARRIER GHUzR GHOzR GHEzR GHEEzR GHIzR GHAzR RUz",
     "R ROzR REzR REEzR RIzR RAzR WUzR WOzR WEzR WEEzR WIzR WAzR HWUzR HWOzR HWEzR HWEEzR HWIzR ",
     "HWAzR THUzR THOzR THEzR THEEzR THIzR THAzR TTUzR TTOzR TTEzR TTEEzR TTIzR TTAzR PUzR POzR ",
     "PEzR PEEzR PIzR PAzR PzR GUzR GOzR GEzR GEEzR GIzR GAzR KHUzR KHOzR KHEzR KHEEzR KHIzR KHA",
     "zR KKUzR KKOzR KKEzR KKEEzR KKI"]),
    (0x1600,
    ["aCANADIAN SYLLABICS CARRIER KKAzR KKzR NUzR NOzR NEzR NEEzR NIzR NAzR MUzR MOzR MEzR MEEzR",
     " MIzR MAzR YUzR YOzR YEzR YEEzR YIzR YAzR JUtSAYISI JUtCARRIER JOzR JEzR JEEzR JItSAYISI J",
     "ItCARRIER JAzR JJUzR JJOzR JJEzR JJEEzR JJIzR JJAzR LUzR LOzR LEzR LEEzR LIzR LAzR DLUzR D",
     "LOzR DLEzR DLEEzR DLIzR DLAzR LHUzR LHOzR LHEzR LHEEzR LHIzR LHAzR TLHUzR TLHOzR TLHEzR TL",
     "HEEzR TLHIzR TLHAzR TLUzR TLOzR TLEzR TLEEzR TLIzR TLA"]),
    (0x1640,
    ["aCANADIAN SYLLABICS CARRIER ZUzR ZOzR ZEzR ZEEzR ZIzR ZAzR ZzR INITIAL ZzR DZUzR DZOzR DZE",
     "zR DZEEzR DZIzR DZAzR SUzR SOzR SEzR SEEzR SIzR SAzR SHUzR SHOzR SHEzR SHEEzR SHIzR SHAzR ",
     "SHzR TSUzR TSOzR TSEzR TSEEzR TSIzR TSAzR CHUzR CHOzR CHEzR CHEEzR CHIzR CHAzR TTSUzR TTSO",
     "zR TTSEzR TTSEEzR TTSIzR TTSAuHI SIGNtFULL STOPtQAItNGAIuNGIxIwOxOwAxAtWOODS-CREE THWEEzCR",
     "EE THWIzCREE THWIIzCREE THWOzCREE THWOOzCREE THWAzCREE THWAAzCREE FINAL THtBLACKFOOT W"]),
    (0x1680,
    ["aOGHAM SPACE MARKgLETTER BEITHnLUISnFEARNnSAILnNIONnUATHnDAIRnTINNEnCOLLoEIRTnMUINnGORTnNG",
     "EADALnSTRAIFnRUISnAILMnONNnURnEADHADHnIODHADHnEABHADHnORnUILLEANNnIFINnEAMHANCHOLLnPEITHgF",
     "EATHER MARKgREVERSED FEATHER MARK"]),
    (0x16A0,
    ["aRUNIC LETTER FEHU FEOH FE FnVnURUZ UR UnYRonWnTHURISAZ THURS THORNnETHnANSUZ AnOS OnAC Ao",
     "ESCnLONG-BRANCH-OSS OnSHORT-TWIG-OSS OnOoEoNnRAIDO RAD REID RnKAUNAnCENnKAUN KnGnENGnGEBO ",
     "GYFU GoARnWUNJO WYNN WnHAGLAZ HpEGL HnLONG-BRANCH-HAGALL HnSHORT-TWIG-HAGALL HnNAUDIZ NYD ",
     "NAUD NnSHORT-TWIG-NAUD NnDOTTED-NnISAZ IS ISS InEnJERAN JnGERnLONG-BRANCH-AR AEnSHORT-TWIG",
     "-AR AnIWAZ EOHnPERTHO PEORTH PnALGIZ EOLHXnSOWILO SoIGEL LONG-BRANCH-SOL SoHORT-TWIG-SOL S",
     "nCnZnTIWAZ TIR TYR TnSHORT-TWIG-TYR TnDnBERKANAN BEORC BJARKAN BnSHORT-TWIG-BJARKAN BnDOTT",
     "ED-PnOPEN-PnEHWAZ EH EnMANNAZ MAN MnLONG-BRANCH-MADR MnSHORT-TWIG-MADR MnLAUKAZ LAGU LOGR ",
     "LnDOTTED-LnINGWAZqnDAGAZ DAEG DnOTHALAN ETHEL O"]),
    (0x16E0,
    ["aRUNIC LETTER EARnIORnCWEORTHoALCoEALCnSTANnLONG-BRANCH-YRnSHORT-TWIG-YRnICELANDIC-YRnQnXg",
     "SINGLE PUNCTUATIONgMULTIPLE PUNCTUATIONgCROSS PUNCTUATIONgARLAUG SYMBOLgTVIMADUR SYMBOLgBE",
     "LGTHOR SYMBOLgLETTER KnSHnOOnFRANKS CASKET OSzT ISzT EHzT ACzT AESC"]),
    (0x1700,
    ["aTAGALOG LETTER ApIpUpKApGApNGApTApDApNApPApBApMApYApRApLApWApSApHAiVOWEL SIGN ItUiSIGN VI",
     "RAMAnPAMUDPOD"]),
    (0x171F,
    ["aTAGALOG LETTER ARCHAIC RAaHANUNOO LETTER ApIpUpKApGApNGApTApDApNApPApBApMApYApRApLApWApSA",
     "pHAiVOWEL SIGN ItUiSIGN PAMUDPODaPHILIPPINE SINGLE PUNCTUATIONlDOUBLE PUNCTUATION"]),
    (0x1740,
    ["aBUHID LETTER AnInUnKAnGAnNGAnTAnDAnNAnPAnBAnMAnYAnRAnLAnWAnSAnHAgVOWEL SIGN IrU"]),
    (0x1760,
    ["aTAGBANWA LETTER AqIqUqKAqGAqNGAqTAqDAqNAqPAqBAqMAqYA"]),
    (0x176E,
    ["aTAGBANWA LETTER LAqWAqSA"]),
    (0x1772,
    ["aTAGBANWA VOWEL SIGN IuU"]),
    (0x1780,
    ["aKHMER LETTER KAoHAoOoHOnNGOnCAoHAoOoHOnNYOnDAnTTHAnDOnTTHOnNNOnTAoHAoOoHOnNOnBAnPHAoOoHOn",
     "MOnYOnROnLOnVOnSHAoSOoAnHAnLAnQAgINDEPENDENT VOWEL QAQzAAzIzIIzUzUKzUUzUUVyRYzYYyLYzYYyQEz",
     "AIzOO TYPE ONEzOO TYPE TWOzAUgVOWEL INHERENT AQwAmSIGN AArIsIrYsYrUsUsArOErYA"]),
    (0x17C0,
    ["aKHMER VOWEL SIGN IErErAEsIrOOrAUgSIGN NIKAHITlREAHMUKlYUUKALEAPINTUlMUUSIKATOANlTRIISAPlB",
     "ANTOClROBATlTOANDAKHIATlKAKABATlAHSDAlSAMYOK SANNYAlVIRIAMlCOENGlBATHAMASATlKHANlBARIYOOSA",
     "NlCAMNUC PII KUUHlLEK TOOlBEYYALlPHNAEK MUANlKOOMUUTgCURRENCY SYMBOL RIELgSIGN AVAKRAHASAN",
     "YAmTTHACAN"]),
    (0x17E0,
    ["aKHMER DIGIT ZEROmONEmTWOnHREEmFOURnIVEmSIXnEVENmEIGHTmNINE"]),
    (0x17F0,
    ["aKHMER SYMBOL LEK ATTAK SONxMUOYxPIIxBEIyUONxPRAMzAM-MUOYzAM-PIIzAM-BEIzAM-BUON"]),
    (0x1800,
    ["aMONGOLIAN BIRGAkELLIPSISkCOMMAkFULL STOPkCOLONkFOUR DOTSkTODO SOFT HYPHENkSIBE SYLLABLE B",
     "OUNDARY MARKERkMANCHU COMMArFULL STOPkNIRUGUkFREE VARIATION SELECTOR ONEzSELECTOR TWOzSELE",
     "CTOR THREEkVOWEL SEPARATORkFREE VARIATION SELECTOR FOURkDIGIT ZEROqONEqTWOrHREEqFOURrIVEqS",
     "IXrEVENqEIGHTqNINE"]),
    (0x1820,
    ["aMONGOLIAN LETTER ArErIrOrUrOErUErEErNArANGrBArPArQArGArMArLArSAsHArTArDArCHArJArYArRArWAr",
     "FArKAsHArTSArZArHAArZRArLHArZHIrCHIrTODO LONG VOWEL SIGNwEwIwOwUwOEwUEwANGwBAwPAwQAwGAwMAw",
     "TAwDAwCHAwJAwTSAwYAwWAwKAwGAAwHAAwJIAwNIAwDZArSIBE EwIxY"]),
    (0x1860,
    ["aMONGOLIAN LETTER SIBE UExwANGwKAwGAwHAwPAwSHAwTAwDAwJAwFAwGAAwHAAwTSAwZAwRAAwCHAwZHArMANC",
     "HU IyKAyRAyFAyZHArCHA WITH TWO DOTS"]),
    (0x1880,
    ["aMONGOLIAN LETTER ALI GALI ANUSVARA ONEz VISARGA ONEz DAMARUz UBADAMAz INVERTED UBADAMAz B",
     "ALUDAz THREE BALUDAz Az Iz KAz NGAz CAz TTAz TTHAz DDAz NNAz TAz DAz PAz PHAz SSAz ZHAz ZA",
     "z AHrTODO ALI GALI TAz GALI ZHArMANCHU ALI GALI GHAzLI GALI NGAzLI GALI CAzLI GALI JHAzLI ",
     "GALI TTAzLI GALI DDHAzLI GALI TAzLI GALI DHAzLI GALI SSAzLI GALI CYAzLI GALI ZHAzLI GALI Z",
     "ArALI GALI HALF Uz HALF YArMANCHU ALI GALI BHArALI GALI DAGALGArMANCHU ALI GALI LHA"]),
    (0x18B0,
    ["aCANADIAN SYLLABICS OYtAYuAYtWAYtPOYuAYuWOYtTAYtKAYuWAYtMAYtNOYuAYtLAYtSOYuAYuHOYvAYvWOYtY",
     "OYuAYtRAYtNWItOJIBWAY NWItNWIItOJIBWAY NWIItNWOtOJIBWAY NWOtNWOOtOJIBWAY NWOOtRWEEvIwIvOwO",
     "vAtOJIBWAY PzY TzY KzY CzY MzY NzY SzY SHtEASTERN WtWESTERN WtFINAL SMALL RINGzRAISED DOTt",
     "R-CREE RWEtWEST-CREE LOOzREE LAAtTHWEwAuTHWEwOOwAAuLHWEwOOtSAYISI SHWEz SHOOz HOOtCARRIER ",
     "GWUzR DENE GEEzR GAA"]),
    (0x18F0,
    ["aCANADIAN SYLLABICS CARRIER GWAtSAYISI JUUtCARRIER JWAtBEAVER DENE Lz DENE RtCARRIER DENTA",
     "L S"]),
    (0x1900,
    ["aLIMBU VOWEL-CARRIER LETTERgLETTER KAoHAnGAoHAnNGAnCAoHAnJAoHAnYANnTAoHAnDAoHAnNAnPAoHAnBA",
     "oHAnMAnYAnRAnLAnWAnSHAoSAoAnHAnGYANnTRA"]),
    (0x1920,
    ["aLIMBU VOWEL SIGN ArIrUrEErAIrOOrAUrErOgSUBJOINED LETTER YAxRAxWA"]),
    (0x1930,
    ["aLIMBU SMALL LETTER KAtNGAtANUSVARAtTAtNAtPAtMAtRAtLAhIGN MUKPHRENGlKEMPHRENGlSA-I"]),
    (0x1940,
    ["aLIMBU SIGN LOO"]),
    (0x1944,
    ["aLIMBU EXCLAMATION MARKgQUESTION MARKgDIGIT ZEROmONEmTWOnHREEmFOURnIVEmSIXnEVENmEIGHTmNINE",
     "aTAI LE LETTER KAoXAoNGAoTSAoSAoYAoTApHAoLAoPApHAoMAoFAoVAoHAoQAoKHAoTSHAoNAoAoIoEEpHoUoOO",
     "poUEoEoAUEpI"]),
    (0x1970,
    ["aTAI LE LETTER TONE-2t3t4t5t6"]),
    (0x1980,
    ["aNEW TAI LUE LETTER HIGH QAtLOW QAtHIGH KAyXAyNGAtLOW KAxXAxNGAtHIGH TSAySAyYAtLOW TSAxSAx",
     "YAtHIGH TAzHAyNAtLOW TAyHAxNAtHIGH PAzHAyMAtLOW PAyHAxMAtHIGH FAyVAyLAtLOW FAxVAxLAtHIGH H",
     "AyDAyBAtLOW HAxDAxBAtHIGH KVAyXVAtLOW KVAxXVAtHIGH SUAtLOW SUA"]),
    (0x19B0,
    ["aNEW TAI LUE VOWEL SIGN VOWEL SHORTENERxAAxIIxUyUxExAExOyAxUExAYyAYxUYxOYyAYxUEYxIYmLETTER",
     " FINAL VzNGzNzMzKzDzBmTONE MARK-1w2"]),
    (0x19D0,
    ["aNEW TAI LUE DIGIT ZEROsONEsTWOtHREEsFOURtIVEsSIXtEVENsEIGHTsNINEmTHAM DIGIT ONE"]),
    (0x19DE,
    ["aNEW TAI LUE SIGN LAEuVaKHMER SYMBOL PATHAMASATnMUOY KOETnPII KOETnBEI KOEToUON KOETnPRAM ",
     "KOETr-MUOY KOETsPII KOETsBEI KOETtUON KOETnDAP KOETq-MUOY KOETrPII KOETrBEI KOETsUON KOETr",
     "PRAM KOETnTUTEYASATnMUOY ROCnPII ROCnBEI ROCoUON ROCnPRAM ROCr-MUOY ROCsPII ROCsBEI ROCtUO",
     "N ROCnDAP ROCq-MUOY ROCrPII ROCrBEI ROCsUON ROCrPRAM ROCaBUGINESE LETTER KAqGAqNGAsKAqPAqB",
     "AqMArPAqTAqDAqNArRAqCAqJAqNYAsCAqYAqRAqLAqVAqSAqAqHAjVOWEL SIGN IuUuEuOuAE"]),
    (0x1A1E,
    ["aBUGINESE PALLAWAjEND OF SECTIONaTAI THAM LETTER HIGH KAwHAwXAqLOW KAvXAvHAqNGAqHIGH CAwHA",
     "qLOW CAuSAuCHAqNYAqRATAqHIGH RATHAqDAqLOW RATHAqRANAqHIGH TAwHAqLOW TAvHAqNAqBAqHIGH PAwHA",
     "vFAqLOW PAuFAuPHAqMAqLOW YAqHIGH YAqRArUEqLArUEqWAqHIGH SHAwSAwAvHAqLLAqAqLOW HAqIrIqUrUqE",
     "EqOOqLAEqGREAT SAjCONSONANT SIGN MEDIAL RAzEDIAL LAyLA TANG LAIjSIGN MAI KANG LAIjCONSONAN",
     "T SIGN FINAL NGAyLOW PAyHIGH RATHA OR LOW PAyMAyBA"]),
    (0x1A5E,
    ["aTAI THAM CONSONANT SIGN SA"]),
    (0x1A60,
    ["aTAI THAM SIGN SAKOTjVOWEL SIGN AuMAI SATuAAuTALL AAuIvIuUEvUEvvUuOvA BELOWvYuEuAEuOOuAIuT",
     "HAM AIuOA ABOVEjSIGN MAI KANGoTONE-1t2oKHUEN TONE-3z4z5oRA HAAMoMAI SAMoKHUEN-LUE KARAN"]),
    (0x1A7F,
    ["aTAI THAM COMBINING CRYPTOGRAMMIC DOTjHORA DIGIT ZEROuONEuTWOvHREEuFOURvIVEuSIXvEVENuEIGHT",
     "uNINE"]),
    (0x1A90,
    ["aTAI THAM THAM DIGIT ZEROuONEuTWOvHREEuFOURvIVEuSIXvEVENuEIGHTuNINE"]),
    (0x1AA0,
    ["aTAI THAM SIGN WIANGtWAAKoSAWANoKEOWoHOYoDOKMAIoREVERSED ROTATED RANAoMAI YAMOKoKAANsKUUoS",
     "ATKAANvKUUoHANGoCAANG"]),
    (0x1AB0,
    ["aCOMBINING DOUBLED CIRCUMFLEX ACCENTlIAERESIS-RINGkINFINITYkDOWNWARDS ARROWkTRIPLE DOTkX-X",
     " BELOWkWIGGLY LINE BELOWkOPEN MARK BELOWkDOUBLE OPEN MARK BELOWkLIGHT CENTRALIZATION STROK",
     "E BELOWkSTRONG CENTRALIZATION STROKE BELOWkPARENTHESES ABOVEkDOUBLE PARENTHESES ABOVEkPARE",
     "NTHESES BELOWwOVERLAYkLATIN SMALL LETTER W BELOWzTER TURNED W BELOWlEFT PARENTHESIS ABOVE ",
     "LEFTkRIGHT PARENTHESIS ABOVE RIGHTkLEFT PARENTHESIS BELOW LEFTkRIGHT PARENTHESIS BELOW RIG",
     "HTkSQUARE BRACKETS ABOVEkNUMBER SIGN ABOVEkINVERTED DOUBLE ARCH ABOVEkPLUS SIGN ABOVEkDOUB",
     "LE PLUS SIGN ABOVEzN BELOWkTRIPLE ACUTE ACCENTkLATIN SMALL LETTER INSULAR GzTER INSULAR Rz",
     "TER INSULAR T"]),
    (0x1B00,
    ["aBALINESE SIGN ULU RICEMsCANDRAoCECEKoSURANGoBISAHjLETTER AKARAv TEDUNGqIKARAv TEDUNGqUKAR",
     "Av TEDUNGqRA REPAx TEDUNGqLA LENGAy TEDUNGqEKARAqAIKARAqOKARAv TEDUNGqKAs MAHAPRANAqGAs GO",
     "RAqNGAqCAs LACAqJAs JERAqNYAqTA LATIKtMURDA MAHAPRANAqDA MURDA ALPAPRANAzMAHAPRANAqNA RAMB",
     "ATqTAs TAWAqDAs MADUqNAqPAs KAPALqBAs KEMBANGqMAqYAqRAqLAqWAqSA SAGAvPAsqHAjSIGN REREKANjV",
     "OWEL SIGN TEDUNGuULUx SARIuSUKUy ILUTuRA REPAzPA TEDUNGuLA LENGAzNGA TEDUNGuTALINGzG REPA"]),
    (0x1B40,
    ["aBALINESE VOWEL SIGN TALING TEDUNGzG REPA TEDUNGuPEPETz TEDUNGjADEG ADEGjLETTER KAF SASAKr",
     "HOT SASAKqTZIR SASAKqEF SASAKqVE SASAKqZAL SASAKqASYURA SASAKrRCHAIC JNYA"]),
    (0x1B50,
    ["aBALINESE DIGIT ZEROpONEpTWOqHREEpFOURqIVEpSIXqEVENpEIGHTpNINEjPANTIlMADAjWINDUjCARIK PAMU",
     "NGKAHpSIKIpPARERENjPAMENENGjMUSICAL SYMBOL DONGzENGzUNGzANGzANG SURANGzINGzAENGzEUNGzAINGz",
     "ANG GEDEyCOMBINING TEGEHzOMBINING ENDEPzOMBINING KEMPULzOMBINING KEMPLIzOMBINING JEGOGANzO",
     "MBINING KEMPUL WITH JEGOGANzOMBINING KEMPLI WITH JEGOGANzOMBINING BENDEzOMBINING GONGyRIGH",
     "T-HAND OPEN DUGzIGHT-HAND OPEN DAGzIGHT-HAND CLOSED TUKzIGHT-HAND CLOSED TAKyLEFT-HAND OPE",
     "N PANGzEFT-HAND OPEN PUNGzEFT-HAND CLOSED PLAKzEFT-HAND CLOSED PLUKzEFT-HAND OPEN PINGjPAN",
     "TI LANTANGlMADA LANTANG"]),
    (0x1B80,
    ["aSUNDANESE SIGN PANYECEKsGLAYARtWISADkLETTER ArIrUrAErOrEsUrKArQArGArNGArCArJArZArNYArTArD",
     "ArNArPArFArVArBArMArYArRArLArWArSArXArHAkCONSONANT SIGN PAMINGKALzPANYAKRAzPANYIKUkVOWEL S",
     "IGN PANGHULUyYUKUyAELAENGyOLONGxMEPETxNEULEUNGkSIGN PAMAAEHpVIRAMAkCONSONANT SIGN PASANGAN",
     " MAzPASANGAN WAkLETTER KHArSYAkDIGIT ZEROqONEqTWOrHREEqFOURrIVEqSIXrEVENqEIGHTqNINEkAVAGRA",
     "HAkLETTER REUrLEUrBHArFINAL KxM"]),
    (0x1BC0,
    ["aBATAK LETTER AnSIMALUNGUN AnHAnSIMALUNGUN HAnMANDAILING HAnBAnKARO BAnPAnSIMALUNGUN PAnNA",
     "nMANDAILING NAnWAnSIMALUNGUN WAnPAKPAK WAnGAnSIMALUNGUN GAnJAnDAnRAnSIMALUNGUN RAnMAnSIMAL",
     "UNGUN MAoOUTHERN TAnNORTHERN TAnSAoIMALUNGUN SAnMANDAILING SAnYAnSIMALUNGUN YAnNGAnLAnSIMA",
     "LUNGUN LAnNYAnCAnNDAnMBAnInUgSIGN TOMPIgVOWEL SIGN ErPAKPAK ErEErIrKARO IrOrKARO OrUs FOR ",
     "SIMALUNGUN SAgCONSONANT SIGN NGvHgPANGOLATjONGONAN"]),
    (0x1BFC,
    ["aBATAK SYMBOL BINDU NA METEKtPINARBORAStJUDULtPANGOLATaLEPCHA LETTER KApLApHAoGApLAoNGAoCA",
     "pHAoJAoNYAoTApHAoDAoNAoPApLApHAoFApLAoBApLAoMApLAoTSAqHAoDZAoYAoRAoLAoHApLAoVAoSApHAoWAoAh",
     "SUBJOINED LETTER YAyRAhVOWEL SIGN AAsIsOtOsUtUsEhCONSONANT SIGN KwMwLwNwPwRwTwNYIN-DOwKANG",
     "hSIGN RANmNUKTA"]),
    (0x1C3B,
    ["aLEPCHA PUNCTUATION TA-ROLtNYET THYOOM TA-ROLtCER-WAtTSHOOK CER-WAzhDIGIT ZEROnONEnTWOoHRE",
     "EnFOURoIVEnSIXoEVENnEIGHTnNINE"]),
    (0x1C4D,
    ["aLEPCHA LETTER TTAqHAoDDAaOL CHIKI DIGIT ZEROpONEpTWOqHREEpFOURqIVEpSIXqEVENpEIGHTpNINEjLE",
     "TTER LAqATrGrNGrLqLAAqAAKsJsMsWqLIqISrHrNYrRqLUqUCrDrNNrYqLEqEPrDDrNrRRqLOqOTTrBrVrHjMU TT",
     "UDDAGjGAAHLAA TTUDDAAGjMU-GAAHLAA TTUDDAAGjRELAAjPHAARKAAjAHADjPUNCTUATION MUCAADvDOUBLE M",
     "UCAADaCYRILLIC SMALL LETTER ROUNDED VEwLONG-LEGGED DEwNARROW OwWIDE ESwTALL TExHREE-LEGGED",
     " TExALL HARD SIGNzL YATwUNBLENDED UK"]),
    (0x1C90,
    ["aGEORGIAN MTAVRULI CAPITAL LETTER ANz LETTER BANz LETTER GANz LETTER DONz LETTER ENz LETTE",
     "R VINz LETTER ZENz LETTER TANz LETTER INz LETTER KANz LETTER LASz LETTER MANz LETTER NARz ",
     "LETTER ONz LETTER PARz LETTER ZHARz LETTER RAEz LETTER SANz LETTER TARz LETTER UNz LETTER ",
     "PHARz LETTER KHARz LETTER GHANz LETTER QARz LETTER SHINz LETTER CHINz LETTER CANz LETTER J",
     "ILz LETTER CILz LETTER CHARz LETTER XANz LETTER JHANz LETTER HAEz LETTER HEz LETTER HIEz L",
     "ETTER WEz LETTER HARz LETTER HOEz LETTER FIz LETTER YNz LETTER ELIFIz LETTER TURNED GANz L",
     "ETTER AIN"]),
    (0x1CBD,
    ["aGEORGIAN MTAVRULI CAPITAL LETTER AENz LETTER HARD SIGNz LETTER LABIAL SIGNaSUNDANESE PUNC",
     "TUATION BINDU SURYAzDU PANGLONGzDU PURNAMAzDU CAKRAzDU LEU SATANGAzDU KA SATANGAzDU DA SAT",
     "ANGAzDU BA SATANGA"]),
    (0x1CD0,
    ["aVEDIC TONE KARSHANAlSHARAlPRENKHAgSIGN NIHSHVASAlYAJURVEDIC MIDLINE SVARITAgTONE YAJURVED",
     "IC AGGRAVATED INDEPENDENT SVARITAwINDEPENDENT SVARITAwKATHAKA INDEPENDENT SVARITAlCANDRA B",
     "ELOWlYAJURVEDIC KATHAKA INDEPENDENT SVARITA SCHROEDERlDOUBLE SVARITAlTRIPLE SVARITAlKATHAK",
     "A ANUDATTAlDOT BELOWlTWO DOTS BELOWmHREE DOTS BELOWlRIGVEDIC KASHMIRI INDEPENDENT SVARITAl",
     "ATHARVAVEDIC INDEPENDENT SVARITAgSIGN VISARGA SVARITAtUDATTAlREVERSED VISARGA UDATTAlVISAR",
     "GA ANUDATTAlREVERSED VISARGA ANUDATTAlVISARGA UDATTA WITH TAILtANUDATTA WITH TAILlANUSVARA",
     " ANTARGOMUKHAuBAHIRGOMUKHAuVAMAGOMUKHAzOMUKHA WITH TAILlTIRYAKlHEXIFORM LONG ANUSVARAlLONG",
     " ANUSVARAlRTHANG LONG ANUSVARAlANUSVARA UBHAYATO MUKHAmRDHAVISARGAlROTATED ARDHAVISARGAgTO",
     "NE CANDRA ABOVEgSIGN JIHVAMULIYAlUPADHMANIYAlATIKRAMAgTONE RING ABOVElDOUBLE RING ABOVEgSI",
     "GN DOUBLE ANUSVARA ANTARGOMUKHA"]),
    (0x1D00,
    ["aLATIN LETTER SMALL CAPITAL AzL AEgSMALL LETTER TURNED AEgLETTER SMALL CAPITAL BARRED BzL ",
     "CzL DzL ETHzL EgSMALL LETTER TURNED OPEN Ez IgLETTER SMALL CAPITAL JzL KzL L WITH STROKEzL",
     " MzL REVERSED NzL OzL OPEN OgSMALL LETTER SIDEWAYS OzYS OPEN OzYS O WITH STROKEtTURNED OEg",
     "LETTER SMALL CAPITAL OUgSMALL LETTER TOP HALF OtBOTTOM HALF OgLETTER SMALL CAPITAL PzL REV",
     "ERSED RzL TURNED RzL TzL UgSMALL LETTER SIDEWAYS UzYS DIAERESIZED UzYS TURNED MgLETTER SMA",
     "LL CAPITAL VzL WzL ZzL EZHnVOICED LARYNGEAL SPIRANTnAINaGREEK LETTER SMALL CAPITAL GAMMAzL",
     " LAMDAzL PIzL RHOzL PSIaCYRILLIC LETTER SMALL CAPITAL ELaMODIFIER LETTER CAPITAL AzEyBzARR",
     "ED ByDyEyREVERSED EyGyHyIyJyKyLyMyNyREVERSED NyOzUyPyR"]),
    (0x1D40,
    ["aMODIFIER LETTER CAPITAL TyUyWqSMALL AwTURNED AwALPHAwTURNED AEwBwDwEwSCHWAwOPEN EwTURNED ",
     "OPEN EwGwTURNED IwKwMwENGwOxPEN OwTOP HALF OwBOTTOM HALF OwPwTwUwSIDEWAYS UwTURNED MwVwAIN",
     "wBETAwGREEK GAMMAwDELTAwGREEK PHIwCHIaLATIN SUBSCRIPT SMALL LETTER IzTER RzTER UzTER VaGRE",
     "EK SUBSCRIPT SMALL LETTER BETAzTER GAMMAzTER RHOzTER PHIzTER CHIaLATIN SMALL LETTER UEtB W",
     "ITH MIDDLE TILDEtD WITH MIDDLE TILDEtF WITH MIDDLE TILDEtM WITH MIDDLE TILDEtN WITH MIDDLE",
     " TILDEtP WITH MIDDLE TILDEtR WITH MIDDLE TILDEz FISHHOOK AND MIDDLE TILDEtS WITH MIDDLE TI",
     "LDEtT WITH MIDDLE TILDEtZ WITH MIDDLE TILDEtTURNED GaMODIFIER LETTER CYRILLIC ENaLATIN SMA",
     "LL LETTER INSULAR GtTH WITH STRIKETHROUGHmCAPITAL LETTER I WITH STROKEmLETTER IOTA WITH ST",
     "ROKEtP WITH STROKEmCAPITAL LETTER U WITH STROKEmLETTER UPSILON WITH STROKE"]),
    (0x1D80,
    ["aLATIN SMALL LETTER B WITH PALATAL HOOKtD WITH PALATAL HOOKtF WITH PALATAL HOOKtG WITH PAL",
     "ATAL HOOKtK WITH PALATAL HOOKtL WITH PALATAL HOOKtM WITH PALATAL HOOKtN WITH PALATAL HOOKt",
     "P WITH PALATAL HOOKtR WITH PALATAL HOOKtS WITH PALATAL HOOKtESH WITH PALATAL HOOKtV WITH P",
     "ALATAL HOOKtX WITH PALATAL HOOKtZ WITH PALATAL HOOKtA WITH RETROFLEX HOOKuLPHA WITH RETROF",
     "LEX HOOKtD WITH HOOK AND TAILtE WITH RETROFLEX HOOKtOPEN E WITH RETROFLEX HOOKtREVERSED OP",
     "EN E WITH RETROFLEX HOOKtSCHWA WITH RETROFLEX HOOKtI WITH RETROFLEX HOOKtOPEN O WITH RETRO",
     "FLEX HOOKtESH WITH RETROFLEX HOOKtU WITH RETROFLEX HOOKtEZH WITH RETROFLEX HOOKaMODIFIER L",
     "ETTER SMALL TURNED ALPHAwCx WITH CURLwETHwREVERSED OPEN EwFwDOTLESS J WITH STROKEwSCRIPT G",
     "wTURNED HwI WITH STROKExOTAwCAPITAL IzITAL I WITH STROKEwJ WITH CROSSED-TAILwL WITH RETROF",
     "LEX HOOKzITH PALATAL HOOKwCAPITAL LwM WITH HOOKwTURNED M WITH LONG LEGwN WITH LEFT HOOKzIT",
     "H RETROFLEX HOOKwCAPITAL NwBARRED OwPHIwS WITH HOOKwESHwT WITH PALATAL HOOKwU BARxPSILONwC",
     "APITAL UwV WITH HOOKwTURNED VwZx WITH RETROFLEX HOOKzITH CURLwEZHwTHETA"]),
    (0x1DC0,
    ["aCOMBINING DOTTED GRAVE ACCENTrACUTE ACCENTkSNAKE BELOWlUSPENSION MARKkMACRON-ACUTEkGRAVE-",
     "MACRONkMACRON-GRAVEkACUTE-MACRONkGRAVE-ACUTE-GRAVEkACUTE-GRAVE-ACUTEkLATIN SMALL LETTER R ",
     "BELOWkBREVE-MACRONkMACRON-BREVEkDOUBLE CIRCUMFLEX ABOVEkOGONEK ABOVEkZIGZAG BELOWkIS BELOW",
     "kUR ABOVElS ABOVEkLATIN SMALL LETTER FLATTENED OPEN A ABOVEzTER AEzTER AOzTER AVzTER C CED",
     "ILLAzTER INSULAR DzTER ETHzTER GqLETTER SMALL CAPITAL GqSMALL LETTER KzTER LqLETTER SMALL ",
     "CAPITAL LzALL CAPITAL MqSMALL LETTER NqLETTER SMALL CAPITAL NzALL CAPITAL RqSMALL LETTER R",
     " ROTUNDAzTER SzTER LONG SzTER ZzTER ALPHAzTER BzTER BETAzTER SCHWAzTER FzTER L WITH DOUBLE",
     " MIDDLE TILDEzTER O WITH LIGHT CENTRALIZATION STROKEzTER PzTER ESHzTER U WITH LIGHT CENTRA",
     "LIZATION STROKEzTER WzTER A WITH DIAERESISzTER O WITH DIAERESISzTER U WITH DIAERESISkUP TA",
     "CK ABOVEkKAVYKA ABOVE RIGHTxLEFTkDOT ABOVE LEFTkWIDE INVERTED BRIDGE BELOWkDOT BELOW LEFTl",
     "ELETION MARKlOUBLE INVERTED BREVE BELOWkALMOST EQUAL TO BELOWkLEFT ARROWHEAD ABOVEkRIGHT A",
     "RROWHEAD AND DOWN ARROWHEAD BELOW"]),
    (0x1E00,
    ["aLATIN CAPITAL LETTER A WITH RING BELOWgSMALL LETTER A WITH RING BELOWgCAPITAL LETTER B WI",
     "TH DOT ABOVEgSMALL LETTER B WITH DOT ABOVEgCAPITAL LETTER B WITH DOT BELOWgSMALL LETTER B ",
     "WITH DOT BELOWgCAPITAL LETTER B WITH LINE BELOWgSMALL LETTER B WITH LINE BELOWgCAPITAL LET",
     "TER C WITH CEDILLA AND ACUTEgSMALL LETTER C WITH CEDILLA AND ACUTEgCAPITAL LETTER D WITH D",
     "OT ABOVEgSMALL LETTER D WITH DOT ABOVEgCAPITAL LETTER D WITH DOT BELOWgSMALL LETTER D WITH",
     " DOT BELOWgCAPITAL LETTER D WITH LINE BELOWgSMALL LETTER D WITH LINE BELOWgCAPITAL LETTER ",
     "D WITH CEDILLAgSMALL LETTER D WITH CEDILLAgCAPITAL LETTER D WITH CIRCUMFLEX BELOWgSMALL LE",
     "TTER D WITH CIRCUMFLEX BELOWgCAPITAL LETTER E WITH MACRON AND GRAVEgSMALL LETTER E WITH MA",
     "CRON AND GRAVEgCAPITAL LETTER E WITH MACRON AND ACUTEgSMALL LETTER E WITH MACRON AND ACUTE",
     "gCAPITAL LETTER E WITH CIRCUMFLEX BELOWgSMALL LETTER E WITH CIRCUMFLEX BELOWgCAPITAL LETTE",
     "R E WITH TILDE BELOWgSMALL LETTER E WITH TILDE BELOWgCAPITAL LETTER E WITH CEDILLA AND BRE",
     "VEgSMALL LETTER E WITH CEDILLA AND BREVEgCAPITAL LETTER F WITH DOT ABOVEgSMALL LETTER F WI",
     "TH DOT ABOVEgCAPITAL LETTER G WITH MACRONgSMALL LETTER G WITH MACRONgCAPITAL LETTER H WITH",
     " DOT ABOVEgSMALL LETTER H WITH DOT ABOVEgCAPITAL LETTER H WITH DOT BELOWgSMALL LETTER H WI",
     "TH DOT BELOWgCAPITAL LETTER H WITH DIAERESISgSMALL LETTER H WITH DIAERESISgCAPITAL LETTER ",
     "H WITH CEDILLAgSMALL LETTER H WITH CEDILLAgCAPITAL LETTER H WITH BREVE BELOWgSMALL LETTER ",
     "H WITH BREVE BELOWgCAPITAL LETTER I WITH TILDE BELOWgSMALL LETTER I WITH TILDE BELOWgCAPIT",
     "AL LETTER I WITH DIAERESIS AND ACUTEgSMALL LETTER I WITH DIAERESIS AND ACUTEgCAPITAL LETTE",
     "R K WITH ACUTEgSMALL LETTER K WITH ACUTEgCAPITAL LETTER K WITH DOT BELOWgSMALL LETTER K WI",
     "TH DOT BELOWgCAPITAL LETTER K WITH LINE BELOWgSMALL LETTER K WITH LINE BELOWgCAPITAL LETTE",
     "R L WITH DOT BELOWgSMALL LETTER L WITH DOT BELOWgCAPITAL LETTER L WITH DOT BELOW AND MACRO",
     "NgSMALL LETTER L WITH DOT BELOW AND MACRONgCAPITAL LETTER L WITH LINE BELOWgSMALL LETTER L",
     " WITH LINE BELOWgCAPITAL LETTER L WITH CIRCUMFLEX BELOWgSMALL LETTER L WITH CIRCUMFLEX BEL",
     "OWgCAPITAL LETTER M WITH ACUTEgSMALL LETTER M WITH ACUTE"]),
    (0x1E40,
    ["aLATIN CAPITAL LETTER M WITH DOT ABOVEgSMALL LETTER M WITH DOT ABOVEgCAPITAL LETTER M WITH",
     " DOT BELOWgSMALL LETTER M WITH DOT BELOWgCAPITAL LETTER N WITH DOT ABOVEgSMALL LETTER N WI",
     "TH DOT ABOVEgCAPITAL LETTER N WITH DOT BELOWgSMALL LETTER N WITH DOT BELOWgCAPITAL LETTER ",
     "N WITH LINE BELOWgSMALL LETTER N WITH LINE BELOWgCAPITAL LETTER N WITH CIRCUMFLEX BELOWgSM",
     "ALL LETTER N WITH CIRCUMFLEX BELOWgCAPITAL LETTER O WITH TILDE AND ACUTEgSMALL LETTER O WI",
     "TH TILDE AND ACUTEgCAPITAL LETTER O WITH TILDE AND DIAERESISgSMALL LETTER O WITH TILDE AND",
     " DIAERESISgCAPITAL LETTER O WITH MACRON AND GRAVEgSMALL LETTER O WITH MACRON AND GRAVEgCAP",
     "ITAL LETTER O WITH MACRON AND ACUTEgSMALL LETTER O WITH MACRON AND ACUTEgCAPITAL LETTER P ",
     "WITH ACUTEgSMALL LETTER P WITH ACUTEgCAPITAL LETTER P WITH DOT ABOVEgSMALL LETTER P WITH D",
     "OT ABOVEgCAPITAL LETTER R WITH DOT ABOVEgSMALL LETTER R WITH DOT ABOVEgCAPITAL LETTER R WI",
     "TH DOT BELOWgSMALL LETTER R WITH DOT BELOWgCAPITAL LETTER R WITH DOT BELOW AND MACRONgSMAL",
     "L LETTER R WITH DOT BELOW AND MACRONgCAPITAL LETTER R WITH LINE BELOWgSMALL LETTER R WITH ",
     "LINE BELOWgCAPITAL LETTER S WITH DOT ABOVEgSMALL LETTER S WITH DOT ABOVEgCAPITAL LETTER S ",
     "WITH DOT BELOWgSMALL LETTER S WITH DOT BELOWgCAPITAL LETTER S WITH ACUTE AND DOT ABOVEgSMA",
     "LL LETTER S WITH ACUTE AND DOT ABOVEgCAPITAL LETTER S WITH CARON AND DOT ABOVEgSMALL LETTE",
     "R S WITH CARON AND DOT ABOVEgCAPITAL LETTER S WITH DOT BELOW AND DOT ABOVEgSMALL LETTER S ",
     "WITH DOT BELOW AND DOT ABOVEgCAPITAL LETTER T WITH DOT ABOVEgSMALL LETTER T WITH DOT ABOVE",
     "gCAPITAL LETTER T WITH DOT BELOWgSMALL LETTER T WITH DOT BELOWgCAPITAL LETTER T WITH LINE ",
     "BELOWgSMALL LETTER T WITH LINE BELOWgCAPITAL LETTER T WITH CIRCUMFLEX BELOWgSMALL LETTER T",
     " WITH CIRCUMFLEX BELOWgCAPITAL LETTER U WITH DIAERESIS BELOWgSMALL LETTER U WITH DIAERESIS",
     " BELOWgCAPITAL LETTER U WITH TILDE BELOWgSMALL LETTER U WITH TILDE BELOWgCAPITAL LETTER U ",
     "WITH CIRCUMFLEX BELOWgSMALL LETTER U WITH CIRCUMFLEX BELOWgCAPITAL LETTER U WITH TILDE AND",
     " ACUTEgSMALL LETTER U WITH TILDE AND ACUTEgCAPITAL LETTER U WITH MACRON AND DIAERESISgSMAL",
     "L LETTER U WITH MACRON AND DIAERESISgCAPITAL LETTER V WITH TILDEgSMALL LETTER V WITH TILDE",
     "gCAPITAL LETTER V WITH DOT BELOWgSMALL LETTER V WITH DOT BELOW"]),
    (0x1E80,
    ["aLATIN CAPITAL LETTER W WITH GRAVEgSMALL LETTER W WITH GRAVEgCAPITAL LETTER W WITH ACUTEgS",
     "MALL LETTER W WITH ACUTEgCAPITAL LETTER W WITH DIAERESISgSMALL LETTER W WITH DIAERESISgCAP",
     "ITAL LETTER W WITH DOT ABOVEgSMALL LETTER W WITH DOT ABOVEgCAPITAL LETTER W WITH DOT BELOW",
     "gSMALL LETTER W WITH DOT BELOWgCAPITAL LETTER X WITH DOT ABOVEgSMALL LETTER X WITH DOT ABO",
     "VEgCAPITAL LETTER X WITH DIAERESISgSMALL LETTER X WITH DIAERESISgCAPITAL LETTER Y WITH DOT",
     " ABOVEgSMALL LETTER Y WITH DOT ABOVEgCAPITAL LETTER Z WITH CIRCUMFLEXgSMALL LETTER Z WITH ",
     "CIRCUMFLEXgCAPITAL LETTER Z WITH DOT BELOWgSMALL LETTER Z WITH DOT BELOWgCAPITAL LETTER Z ",
     "WITH LINE BELOWgSMALL LETTER Z WITH LINE BELOWtH WITH LINE BELOWtT WITH DIAERESIStW WITH R",
     "ING ABOVEtY WITH RING ABOVEtA WITH RIGHT HALF RINGtLONG S WITH DOT ABOVEz WITH DIAGONAL ST",
     "ROKEz WITH HIGH STROKEgCAPITAL LETTER SHARP SgSMALL LETTER DELTAgCAPITAL LETTER A WITH DOT",
     " BELOWgSMALL LETTER A WITH DOT BELOWgCAPITAL LETTER A WITH HOOK ABOVEgSMALL LETTER A WITH ",
     "HOOK ABOVEgCAPITAL LETTER A WITH CIRCUMFLEX AND ACUTEgSMALL LETTER A WITH CIRCUMFLEX AND A",
     "CUTEgCAPITAL LETTER A WITH CIRCUMFLEX AND GRAVEgSMALL LETTER A WITH CIRCUMFLEX AND GRAVEgC",
     "APITAL LETTER A WITH CIRCUMFLEX AND HOOK ABOVEgSMALL LETTER A WITH CIRCUMFLEX AND HOOK ABO",
     "VEgCAPITAL LETTER A WITH CIRCUMFLEX AND TILDEgSMALL LETTER A WITH CIRCUMFLEX AND TILDEgCAP",
     "ITAL LETTER A WITH CIRCUMFLEX AND DOT BELOWgSMALL LETTER A WITH CIRCUMFLEX AND DOT BELOWgC",
     "APITAL LETTER A WITH BREVE AND ACUTEgSMALL LETTER A WITH BREVE AND ACUTEgCAPITAL LETTER A ",
     "WITH BREVE AND GRAVEgSMALL LETTER A WITH BREVE AND GRAVEgCAPITAL LETTER A WITH BREVE AND H",
     "OOK ABOVEgSMALL LETTER A WITH BREVE AND HOOK ABOVEgCAPITAL LETTER A WITH BREVE AND TILDEgS",
     "MALL LETTER A WITH BREVE AND TILDEgCAPITAL LETTER A WITH BREVE AND DOT BELOWgSMALL LETTER ",
     "A WITH BREVE AND DOT BELOWgCAPITAL LETTER E WITH DOT BELOWgSMALL LETTER E WITH DOT BELOWgC",
     "APITAL LETTER E WITH HOOK ABOVEgSMALL LETTER E WITH HOOK ABOVEgCAPITAL LETTER E WITH TILDE",
     "gSMALL LETTER E WITH TILDEgCAPITAL LETTER E WITH CIRCUMFLEX AND ACUTEgSMALL LETTER E WITH ",
     "CIRCUMFLEX AND ACUTE"]),
    (0x1EC0,
    ["aLATIN CAPITAL LETTER E WITH CIRCUMFLEX AND GRAVEgSMALL LETTER E WITH CIRCUMFLEX AND GRAVE",
     "gCAPITAL LETTER E WITH CIRCUMFLEX AND HOOK ABOVEgSMALL LETTER E WITH CIRCUMFLEX AND HOOK A",
     "BOVEgCAPITAL LETTER E WITH CIRCUMFLEX AND TILDEgSMALL LETTER E WITH CIRCUMFLEX AND TILDEgC",
     "APITAL LETTER E WITH CIRCUMFLEX AND DOT BELOWgSMALL LETTER E WITH CIRCUMFLEX AND DOT BELOW",
     "gCAPITAL LETTER I WITH HOOK ABOVEgSMALL LETTER I WITH HOOK ABOVEgCAPITAL LETTER I WITH DOT",
     " BELOWgSMALL LETTER I WITH DOT BELOWgCAPITAL LETTER O WITH DOT BELOWgSMALL LETTER O WITH D",
     "OT BELOWgCAPITAL LETTER O WITH HOOK ABOVEgSMALL LETTER O WITH HOOK ABOVEgCAPITAL LETTER O ",
     "WITH CIRCUMFLEX AND ACUTEgSMALL LETTER O WITH CIRCUMFLEX AND ACUTEgCAPITAL LETTER O WITH C",
     "IRCUMFLEX AND GRAVEgSMALL LETTER O WITH CIRCUMFLEX AND GRAVEgCAPITAL LETTER O WITH CIRCUMF",
     "LEX AND HOOK ABOVEgSMALL LETTER O WITH CIRCUMFLEX AND HOOK ABOVEgCAPITAL LETTER O WITH CIR",
     "CUMFLEX AND TILDEgSMALL LETTER O WITH CIRCUMFLEX AND TILDEgCAPITAL LETTER O WITH CIRCUMFLE",
     "X AND DOT BELOWgSMALL LETTER O WITH CIRCUMFLEX AND DOT BELOWgCAPITAL LETTER O WITH HORN AN",
     "D ACUTEgSMALL LETTER O WITH HORN AND ACUTEgCAPITAL LETTER O WITH HORN AND GRAVEgSMALL LETT",
     "ER O WITH HORN AND GRAVEgCAPITAL LETTER O WITH HORN AND HOOK ABOVEgSMALL LETTER O WITH HOR",
     "N AND HOOK ABOVEgCAPITAL LETTER O WITH HORN AND TILDEgSMALL LETTER O WITH HORN AND TILDEgC",
     "APITAL LETTER O WITH HORN AND DOT BELOWgSMALL LETTER O WITH HORN AND DOT BELOWgCAPITAL LET",
     "TER U WITH DOT BELOWgSMALL LETTER U WITH DOT BELOWgCAPITAL LETTER U WITH HOOK ABOVEgSMALL ",
     "LETTER U WITH HOOK ABOVEgCAPITAL LETTER U WITH HORN AND ACUTEgSMALL LETTER U WITH HORN AND",
     " ACUTEgCAPITAL LETTER U WITH HORN AND GRAVEgSMALL LETTER U WITH HORN AND GRAVEgCAPITAL LET",
     "TER U WITH HORN AND HOOK ABOVEgSMALL LETTER U WITH HORN AND HOOK ABOVEgCAPITAL LETTER U WI",
     "TH HORN AND TILDEgSMALL LETTER U WITH HORN AND TILDEgCAPITAL LETTER U WITH HORN AND DOT BE",
     "LOWgSMALL LETTER U WITH HORN AND DOT BELOWgCAPITAL LETTER Y WITH GRAVEgSMALL LETTER Y WITH",
     " GRAVEgCAPITAL LETTER Y WITH DOT BELOWgSMALL LETTER Y WITH DOT BELOWgCAPITAL LETTER Y WITH",
     " HOOK ABOVEgSMALL LETTER Y WITH HOOK ABOVEgCAPITAL LETTER Y WITH TILDEgSMALL LETTER Y WITH",
     " TILDEgCAPITAL LETTER MIDDLE-WELSH LLgSMALL LETTER MIDDLE-WELSH LLgCAPITAL LETTER MIDDLE-W",
     "ELSH VgSMALL LETTER MIDDLE-WELSH VgCAPITAL LETTER Y WITH LOOPgSMALL LETTER Y WITH LOOP"]),
    (0x1F00,
    ["aGREEK SMALL LETTER ALPHA WITH PSILIzWITH DASIAzWITH PSILI AND VARIAzWITH DASIA AND VARIAz",
     "WITH PSILI AND OXIAzWITH DASIA AND OXIAzWITH PSILI AND PERISPOMENIzWITH DASIA AND PERISPOM",
     "ENIgCAPITAL LETTER ALPHA WITH PSILIzA WITH DASIAzA WITH PSILI AND VARIAzA WITH DASIA AND V",
     "ARIAzA WITH PSILI AND OXIAzA WITH DASIA AND OXIAzA WITH PSILI AND PERISPOMENIzA WITH DASIA",
     " AND PERISPOMENIgSMALL LETTER EPSILON WITH PSILIzN WITH DASIAzN WITH PSILI AND VARIAzN WIT",
     "H DASIA AND VARIAzN WITH PSILI AND OXIAzN WITH DASIA AND OXIA"]),
    (0x1F18,
    ["aGREEK CAPITAL LETTER EPSILON WITH PSILIzLON WITH DASIAzLON WITH PSILI AND VARIAzLON WITH ",
     "DASIA AND VARIAzLON WITH PSILI AND OXIAzLON WITH DASIA AND OXIA"]),
    (0x1F20,
    ["aGREEK SMALL LETTER ETA WITH PSILIzTH DASIAzTH PSILI AND VARIAzTH DASIA AND VARIAzTH PSILI",
     " AND OXIAzTH DASIA AND OXIAzTH PSILI AND PERISPOMENIzTH DASIA AND PERISPOMENIgCAPITAL LETT",
     "ER ETA WITH PSILIzWITH DASIAzWITH PSILI AND VARIAzWITH DASIA AND VARIAzWITH PSILI AND OXIA",
     "zWITH DASIA AND OXIAzWITH PSILI AND PERISPOMENIzWITH DASIA AND PERISPOMENIgSMALL LETTER IO",
     "TA WITH PSILIzITH DASIAzITH PSILI AND VARIAzITH DASIA AND VARIAzITH PSILI AND OXIAzITH DAS",
     "IA AND OXIAzITH PSILI AND PERISPOMENIzITH DASIA AND PERISPOMENIgCAPITAL LETTER IOTA WITH P",
     "SILIz WITH DASIAz WITH PSILI AND VARIAz WITH DASIA AND VARIAz WITH PSILI AND OXIAz WITH DA",
     "SIA AND OXIAz WITH PSILI AND PERISPOMENIz WITH DASIA AND PERISPOMENIgSMALL LETTER OMICRON ",
     "WITH PSILIzN WITH DASIAzN WITH PSILI AND VARIAzN WITH DASIA AND VARIAzN WITH PSILI AND OXI",
     "AzN WITH DASIA AND OXIA"]),
    (0x1F48,
    ["aGREEK CAPITAL LETTER OMICRON WITH PSILIzRON WITH DASIAzRON WITH PSILI AND VARIAzRON WITH ",
     "DASIA AND VARIAzRON WITH PSILI AND OXIAzRON WITH DASIA AND OXIA"]),
    (0x1F50,
    ["aGREEK SMALL LETTER UPSILON WITH PSILIzN WITH DASIAzN WITH PSILI AND VARIAzN WITH DASIA AN",
     "D VARIAzN WITH PSILI AND OXIAzN WITH DASIA AND OXIAzN WITH PSILI AND PERISPOMENIzN WITH DA",
     "SIA AND PERISPOMENI"]),
    (0x1F59,
    ["aGREEK CAPITAL LETTER UPSILON WITH DASIA"]),
    (0x1F5B,
    ["aGREEK CAPITAL LETTER UPSILON WITH DASIA AND VARIA"]),
    (0x1F5D,
    ["aGREEK CAPITAL LETTER UPSILON WITH DASIA AND OXIA"]),
    (0x1F5F,
    ["aGREEK CAPITAL LETTER UPSILON WITH DASIA AND PERISPOMENIgSMALL LETTER OMEGA WITH PSILIzWIT",
     "H DASIAzWITH PSILI AND VARIAzWITH DASIA AND VARIAzWITH PSILI AND OXIAzWITH DASIA AND OXIAz",
     "WITH PSILI AND PERISPOMENIzWITH DASIA AND PERISPOMENIgCAPITAL LETTER OMEGA WITH PSILIzA WI",
     "TH DASIAzA WITH PSILI AND VARIAzA WITH DASIA AND VARIAzA WITH PSILI AND OXIAzA WITH DASIA ",
     "AND OXIAzA WITH PSILI AND PERISPOMENIzA WITH DASIA AND PERISPOMENIgSMALL LETTER ALPHA WITH",
     " VARIAzWITH OXIAtEPSILON WITH VARIAzN WITH OXIAuTA WITH VARIAzTH OXIAtIOTA WITH VARIAzITH ",
     "OXIAtOMICRON WITH VARIAzN WITH OXIAtUPSILON WITH VARIAzN WITH OXIAtOMEGA WITH VARIAzWITH O",
     "XIA"]),
    (0x1F80,
    ["aGREEK SMALL LETTER ALPHA WITH PSILI AND YPOGEGRAMMENIzWITH DASIA AND YPOGEGRAMMENIzWITH P",
     "SILI AND VARIA AND YPOGEGRAMMENIzWITH DASIA AND VARIA AND YPOGEGRAMMENIzWITH PSILI AND OXI",
     "A AND YPOGEGRAMMENIzWITH DASIA AND OXIA AND YPOGEGRAMMENIzWITH PSILI AND PERISPOMENI AND Y",
     "POGEGRAMMENIzWITH DASIA AND PERISPOMENI AND YPOGEGRAMMENIgCAPITAL LETTER ALPHA WITH PSILI ",
     "AND PROSGEGRAMMENIzA WITH DASIA AND PROSGEGRAMMENIzA WITH PSILI AND VARIA AND PROSGEGRAMME",
     "NIzA WITH DASIA AND VARIA AND PROSGEGRAMMENIzA WITH PSILI AND OXIA AND PROSGEGRAMMENIzA WI",
     "TH DASIA AND OXIA AND PROSGEGRAMMENIzA WITH PSILI AND PERISPOMENI AND PROSGEGRAMMENIzA WIT",
     "H DASIA AND PERISPOMENI AND PROSGEGRAMMENIgSMALL LETTER ETA WITH PSILI AND YPOGEGRAMMENIzT",
     "H DASIA AND YPOGEGRAMMENIzTH PSILI AND VARIA AND YPOGEGRAMMENIzTH DASIA AND VARIA AND YPOG",
     "EGRAMMENIzTH PSILI AND OXIA AND YPOGEGRAMMENIzTH DASIA AND OXIA AND YPOGEGRAMMENIzTH PSILI",
     " AND PERISPOMENI AND YPOGEGRAMMENIzTH DASIA AND PERISPOMENI AND YPOGEGRAMMENIgCAPITAL LETT",
     "ER ETA WITH PSILI AND PROSGEGRAMMENIzWITH DASIA AND PROSGEGRAMMENIzWITH PSILI AND VARIA AN",
     "D PROSGEGRAMMENIzWITH DASIA AND VARIA AND PROSGEGRAMMENIzWITH PSILI AND OXIA AND PROSGEGRA",
     "MMENIzWITH DASIA AND OXIA AND PROSGEGRAMMENIzWITH PSILI AND PERISPOMENI AND PROSGEGRAMMENI",
     "zWITH DASIA AND PERISPOMENI AND PROSGEGRAMMENIgSMALL LETTER OMEGA WITH PSILI AND YPOGEGRAM",
     "MENIzWITH DASIA AND YPOGEGRAMMENIzWITH PSILI AND VARIA AND YPOGEGRAMMENIzWITH DASIA AND VA",
     "RIA AND YPOGEGRAMMENIzWITH PSILI AND OXIA AND YPOGEGRAMMENIzWITH DASIA AND OXIA AND YPOGEG",
     "RAMMENIzWITH PSILI AND PERISPOMENI AND YPOGEGRAMMENIzWITH DASIA AND PERISPOMENI AND YPOGEG",
     "RAMMENIgCAPITAL LETTER OMEGA WITH PSILI AND PROSGEGRAMMENIzA WITH DASIA AND PROSGEGRAMMENI",
     "zA WITH PSILI AND VARIA AND PROSGEGRAMMENIzA WITH DASIA AND VARIA AND PROSGEGRAMMENIzA WIT",
     "H PSILI AND OXIA AND PROSGEGRAMMENIzA WITH DASIA AND OXIA AND PROSGEGRAMMENIzA WITH PSILI ",
     "AND PERISPOMENI AND PROSGEGRAMMENIzA WITH DASIA AND PERISPOMENI AND PROSGEGRAMMENIgSMALL L",
     "ETTER ALPHA WITH VRACHYzWITH MACRONzWITH VARIA AND YPOGEGRAMMENIzWITH YPOGEGRAMMENIzWITH O",
     "XIA AND YPOGEGRAMMENI"]),
    (0x1FB6,
    ["aGREEK SMALL LETTER ALPHA WITH PERISPOMENIzWITH PERISPOMENI AND YPOGEGRAMMENIgCAPITAL LETT",
     "ER ALPHA WITH VRACHYzA WITH MACRONzA WITH VARIAzA WITH OXIAzA WITH PROSGEGRAMMENIgKORONISg",
     "PROSGEGRAMMENIhSILIhERISPOMENIgDIALYTIKA AND PERISPOMENIgSMALL LETTER ETA WITH VARIA AND Y",
     "POGEGRAMMENIzTH YPOGEGRAMMENIzTH OXIA AND YPOGEGRAMMENI"]),
    (0x1FC6,
    ["aGREEK SMALL LETTER ETA WITH PERISPOMENIzTH PERISPOMENI AND YPOGEGRAMMENIgCAPITAL LETTER E",
     "PSILON WITH VARIAzLON WITH OXIAwTA WITH VARIAzWITH OXIAzWITH PROSGEGRAMMENIgPSILI AND VARI",
     "AqOXIAqPERISPOMENIgSMALL LETTER IOTA WITH VRACHYzITH MACRONzITH DIALYTIKA AND VARIAzITH DI",
     "ALYTIKA AND OXIA"]),
    (0x1FD6,
    ["aGREEK SMALL LETTER IOTA WITH PERISPOMENIzITH DIALYTIKA AND PERISPOMENIgCAPITAL LETTER IOT",
     "A WITH VRACHYz WITH MACRONz WITH VARIAz WITH OXIA"]),
    (0x1FDD,
    ["aGREEK DASIA AND VARIAqOXIAqPERISPOMENIgSMALL LETTER UPSILON WITH VRACHYzN WITH MACRONzN W",
     "ITH DIALYTIKA AND VARIAzN WITH DIALYTIKA AND OXIAtRHO WITH PSILIzTH DASIAtUPSILON WITH PER",
     "ISPOMENIzN WITH DIALYTIKA AND PERISPOMENIgCAPITAL LETTER UPSILON WITH VRACHYzLON WITH MACR",
     "ONzLON WITH VARIAzLON WITH OXIAvRHO WITH DASIAgDIALYTIKA AND VARIAuOXIAgVARIA"]),
    (0x1FF2,
    ["aGREEK SMALL LETTER OMEGA WITH VARIA AND YPOGEGRAMMENIzWITH YPOGEGRAMMENIzWITH OXIA AND YP",
     "OGEGRAMMENI"]),
    (0x1FF6,
    ["aGREEK SMALL LETTER OMEGA WITH PERISPOMENIzWITH PERISPOMENI AND YPOGEGRAMMENIgCAPITAL LETT",
     "ER OMICRON WITH VARIAzRON WITH OXIAxEGA WITH VARIAzA WITH OXIAzA WITH PROSGEGRAMMENIgOXIAg",
     "DASIA"])]

end MockApi.Text
