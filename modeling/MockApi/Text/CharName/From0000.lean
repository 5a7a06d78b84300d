/-!
# Names of characters: U+0020 to U+0FDA

* `namesFrom0000` : runs of characters with their names, in the form that `Text.charOfName?` reads.

The names are those of Unicode 14.
-/

namespace MockApi.Text

/-- Runs of characters: the first one, and the names of all, cut into lines. -/
def namesFrom0000 : List (Nat × List String) :=
   [(0x0020,
    ["aSPACEaEXCLAMATION MARKaQUOTATION MARKaNUMBER SIGNaDOLLAR SIGNaPERCENT SIGNaAMPERSANDbPOST",
     "ROPHEaLEFT PARENTHESISaRIGHT PARENTHESISaASTERISKaPLUS SIGNaCOMMAaHYPHEN-MINUSaFULL STOPaS",
     "OLIDUSaDIGIT ZEROgONEgTWOhHREEgFOURhIVEgSIXhEVENgEIGHTgNINEaCOLONaSEMICOLONaLESS-THAN SIGN",
     "aEQUALS SIGNaGREATER-THAN SIGNaQUESTION MARKaCOMMERCIAL ATaLATIN CAPITAL LETTER AvBvCvDvEv",
     "FvGvHvIvJvKvLvMvNvOvPvQvRvSvTvUvVvWvXvYvZbEFT SQUARE BRACKETaREVERSE SOLIDUSbIGHT SQUARE B",
     "RACKETaCIRCUMFLEX ACCENTaLOW LINE"]),
    (0x0060,
    ["aGRAVE ACCENTaLATIN SMALL LETTER AtBtCtDtEtFtGtHtItJtKtLtMtNtOtPtQtRtStTtUtVtWtXtYtZbEFT C",
     "URLY BRACKETaVERTICAL LINEaRIGHT CURLY BRACKETaTILDE"]),
    (0x00A0,
    ["aNO-BREAK SPACEaINVERTED EXCLAMATION MARKaCENT SIGNaPOUND SIGNaCURRENCY SIGNaYEN SIGNaBROK",
     "EN BARaSECTION SIGNaDIAERESISaCOPYRIGHT SIGNaFEMININE ORDINAL INDICATORaLEFT-POINTING DOUB",
     "LE ANGLE QUOTATION MARKaNOT SIGNaSOFT HYPHENaREGISTERED SIGNaMACRONaDEGREE SIGNaPLUS-MINUS",
     " SIGNaSUPERSCRIPT TWOnHREEaACUTE ACCENTaMICRO SIGNaPILCROW SIGNaMIDDLE DOTaCEDILLAaSUPERSC",
     "RIPT ONEaMASCULINE ORDINAL INDICATORaRIGHT-POINTING DOUBLE ANGLE QUOTATION MARKaVULGAR FRA",
     "CTION ONE QUARTERuHALFqTHREE QUARTERSaINVERTED QUESTION MARKaLATIN CAPITAL LETTER A WITH G",
     "RAVEzTH ACUTEzTH CIRCUMFLEXzTH TILDEzTH DIAERESISzTH RING ABOVEwEvC WITH CEDILLAvE WITH GR",
     "AVEzTH ACUTEzTH CIRCUMFLEXzTH DIAERESISvI WITH GRAVEzTH ACUTEzTH CIRCUMFLEXzTH DIAERESISvE",
     "THvN WITH TILDEvO WITH GRAVEzTH ACUTEzTH CIRCUMFLEXzTH TILDEzTH DIAERESISaMULTIPLICATION S",
     "IGNaLATIN CAPITAL LETTER O WITH STROKEvU WITH GRAVEzTH ACUTEzTH CIRCUMFLEXzTH DIAERESISvY ",
     "WITH ACUTEvTHORNgSMALL LETTER SHARP S"]),
    (0x00E0,
    ["aLATIN SMALL LETTER A WITH GRAVEz ACUTEz CIRCUMFLEXz TILDEz DIAERESISz RING ABOVEuEtC WITH",
     " CEDILLAtE WITH GRAVEz ACUTEz CIRCUMFLEXz DIAERESIStI WITH GRAVEz ACUTEz CIRCUMFLEXz DIAER",
     "ESIStETHtN WITH TILDEtO WITH GRAVEz ACUTEz CIRCUMFLEXz TILDEz DIAERESISaDIVISION SIGNaLATI",
     "N SMALL LETTER O WITH STROKEtU WITH GRAVEz ACUTEz CIRCUMFLEXz DIAERESIStY WITH ACUTEtTHORN",
     "tY WITH DIAERESISgCAPITAL LETTER A WITH MACRONgSMALL LETTER A WITH MACRONgCAPITAL LETTER A",
     " WITH BREVEgSMALL LETTER A WITH BREVEgCAPITAL LETTER A WITH OGONEKgSMALL LETTER A WITH OGO",
     "NEKgCAPITAL LETTER C WITH ACUTEgSMALL LETTER C WITH ACUTEgCAPITAL LETTER C WITH CIRCUMFLEX",
     "gSMALL LETTER C WITH CIRCUMFLEXgCAPITAL LETTER C WITH DOT ABOVEgSMALL LETTER C WITH DOT AB",
     "OVEgCAPITAL LETTER C WITH CARONgSMALL LETTER C WITH CARONgCAPITAL LETTER D WITH CARONgSMAL",
     "L LETTER D WITH CARONgCAPITAL LETTER D WITH STROKEgSMALL LETTER D WITH STROKEgCAPITAL LETT",
     "ER E WITH MACRONgSMALL LETTER E WITH MACRONgCAPITAL LETTER E WITH BREVEgSMALL LETTER E WIT",
     "H BREVEgCAPITAL LETTER E WITH DOT ABOVEgSMALL LETTER E WITH DOT ABOVEgCAPITAL LETTER E WIT",
     "H OGONEKgSMALL LETTER E WITH OGONEKgCAPITAL LETTER E WITH CARONgSMALL LETTER E WITH CARONg",
     "CAPITAL LETTER G WITH CIRCUMFLEXgSMALL LETTER G WITH CIRCUMFLEXgCAPITAL LETTER G WITH BREV",
     "EgSMALL LETTER G WITH BREVE"]),
    (0x0120,
    ["aLATIN CAPITAL LETTER G WITH DOT ABOVEgSMALL LETTER G WITH DOT ABOVEgCAPITAL LETTER G WITH",
     " CEDILLAgSMALL LETTER G WITH CEDILLAgCAPITAL LETTER H WITH CIRCUMFLEXgSMALL LETTER H WITH ",
     "CIRCUMFLEXgCAPITAL LETTER H WITH STROKEgSMALL LETTER H WITH STROKEgCAPITAL LETTER I WITH T",
     "ILDEgSMALL LETTER I WITH TILDEgCAPITAL LETTER I WITH MACRONgSMALL LETTER I WITH MACRONgCAP",
     "ITAL LETTER I WITH BREVEgSMALL LETTER I WITH BREVEgCAPITAL LETTER I WITH OGONEKgSMALL LETT",
     "ER I WITH OGONEKgCAPITAL LETTER I WITH DOT ABOVEgSMALL LETTER DOTLESS IgCAPITAL LIGATURE I",
     "JgSMALL LIGATURE IJgCAPITAL LETTER J WITH CIRCUMFLEXgSMALL LETTER J WITH CIRCUMFLEXgCAPITA",
     "L LETTER K WITH CEDILLAgSMALL LETTER K WITH CEDILLAuRAgCAPITAL LETTER L WITH ACUTEgSMALL L",
     "ETTER L WITH ACUTEgCAPITAL LETTER L WITH CEDILLAgSMALL LETTER L WITH CEDILLAgCAPITAL LETTE",
     "R L WITH CARONgSMALL LETTER L WITH CARONgCAPITAL LETTER L WITH MIDDLE DOTgSMALL LETTER L W",
     "ITH MIDDLE DOTgCAPITAL LETTER L WITH STROKEgSMALL LETTER L WITH STROKEgCAPITAL LETTER N WI",
     "TH ACUTEgSMALL LETTER N WITH ACUTEgCAPITAL LETTER N WITH CEDILLAgSMALL LETTER N WITH CEDIL",
     "LAgCAPITAL LETTER N WITH CARONgSMALL LETTER N WITH CARONvPRECEDED BY APOSTROPHEgCAPITAL LE",
     "TTER ENGgSMALL LETTER ENGgCAPITAL LETTER O WITH MACRONgSMALL LETTER O WITH MACRONgCAPITAL ",
     "LETTER O WITH BREVEgSMALL LETTER O WITH BREVEgCAPITAL LETTER O WITH DOUBLE ACUTEgSMALL LET",
     "TER O WITH DOUBLE ACUTEgCAPITAL LIGATURE OEgSMALL LIGATURE OEgCAPITAL LETTER R WITH ACUTEg",
     "SMALL LETTER R WITH ACUTEgCAPITAL LETTER R WITH CEDILLAgSMALL LETTER R WITH CEDILLAgCAPITA",
     "L LETTER R WITH CARONgSMALL LETTER R WITH CARONgCAPITAL LETTER S WITH ACUTEgSMALL LETTER S",
     " WITH ACUTEgCAPITAL LETTER S WITH CIRCUMFLEXgSMALL LETTER S WITH CIRCUMFLEXgCAPITAL LETTER",
     " S WITH CEDILLAgSMALL LETTER S WITH CEDILLA"]),
    (0x0160,
    ["aLATIN CAPITAL LETTER S WITH CARONgSMALL LETTER S WITH CARONgCAPITAL LETTER T WITH CEDILLA",
     "gSMALL LETTER T WITH CEDILLAgCAPITAL LETTER T WITH CARONgSMALL LETTER T WITH CARONgCAPITAL",
     " LETTER T WITH STROKEgSMALL LETTER T WITH STROKEgCAPITAL LETTER U WITH TILDEgSMALL LETTER ",
     "U WITH TILDEgCAPITAL LETTER U WITH MACRONgSMALL LETTER U WITH MACRONgCAPITAL LETTER U WITH",
     " BREVEgSMALL LETTER U WITH BREVEgCAPITAL LETTER U WITH RING ABOVEgSMALL LETTER U WITH RING",
     " ABOVEgCAPITAL LETTER U WITH DOUBLE ACUTEgSMALL LETTER U WITH DOUBLE ACUTEgCAPITAL LETTER ",
     "U WITH OGONEKgSMALL LETTER U WITH OGONEKgCAPITAL LETTER W WITH CIRCUMFLEXgSMALL LETTER W W",
     "ITH CIRCUMFLEXgCAPITAL LETTER Y WITH CIRCUMFLEXgSMALL LETTER Y WITH CIRCUMFLEXgCAPITAL LET",
     "TER Y WITH DIAERESISvZ WITH ACUTEgSMALL LETTER Z WITH ACUTEgCAPITAL LETTER Z WITH DOT ABOV",
     "EgSMALL LETTER Z WITH DOT ABOVEgCAPITAL LETTER Z WITH CARONgSMALL LETTER Z WITH CARONtLONG",
     " StB WITH STROKEgCAPITAL LETTER B WITH HOOKzTH TOPBARgSMALL LETTER B WITH TOPBARgCAPITAL L",
     "ETTER TONE SIXgSMALL LETTER TONE SIXgCAPITAL LETTER OPEN OvC WITH HOOKgSMALL LETTER C WITH",
     " HOOKgCAPITAL LETTER AFRICAN DvD WITH HOOKzTH TOPBARgSMALL LETTER D WITH TOPBARtTURNED DEL",
     "TAgCAPITAL LETTER REVERSED EvSCHWAvOPEN EvF WITH HOOKgSMALL LETTER F WITH HOOKgCAPITAL LET",
     "TER G WITH HOOKwAMMAgSMALL LETTER HVgCAPITAL LETTER IOTAw WITH STROKEvK WITH HOOKgSMALL LE",
     "TTER K WITH HOOKtL WITH BARuAMBDA WITH STROKEgCAPITAL LETTER TURNED MvN WITH LEFT HOOKgSMA",
     "LL LETTER N WITH LONG RIGHT LEGgCAPITAL LETTER O WITH MIDDLE TILDE"]),
    (0x01A0,
    ["aLATIN CAPITAL LETTER O WITH HORNgSMALL LETTER O WITH HORNgCAPITAL LETTER OIgSMALL LETTER ",
     "OIgCAPITAL LETTER P WITH HOOKgSMALL LETTER P WITH HOOKgLETTER YRgCAPITAL LETTER TONE TWOgS",
     "MALL LETTER TONE TWOgCAPITAL LETTER ESHgLETTER REVERSED ESH LOOPgSMALL LETTER T WITH PALAT",
     "AL HOOKgCAPITAL LETTER T WITH HOOKgSMALL LETTER T WITH HOOKgCAPITAL LETTER T WITH RETROFLE",
     "X HOOKvU WITH HORNgSMALL LETTER U WITH HORNgCAPITAL LETTER UPSILONvV WITH HOOKvY WITH HOOK",
     "gSMALL LETTER Y WITH HOOKgCAPITAL LETTER Z WITH STROKEgSMALL LETTER Z WITH STROKEgCAPITAL ",
     "LETTER EZHy REVERSEDgSMALL LETTER EZH REVERSEDxWITH TAILgLETTER TWO WITH STROKEgCAPITAL LE",
     "TTER TONE FIVEgSMALL LETTER TONE FIVEgLETTER INVERTED GLOTTAL STOP WITH STROKEnWYNNnDENTAL",
     " CLICKnLATERAL CLICKnALVEOLAR CLICKnRETROFLEX CLICKgCAPITAL LETTER DZ WITH CARONw WITH SMA",
     "LL LETTER Z WITH CARONgSMALL LETTER DZ WITH CARONgCAPITAL LETTER LJw WITH SMALL LETTER JgS",
     "MALL LETTER LJgCAPITAL LETTER NJw WITH SMALL LETTER JgSMALL LETTER NJgCAPITAL LETTER A WIT",
     "H CARONgSMALL LETTER A WITH CARONgCAPITAL LETTER I WITH CARONgSMALL LETTER I WITH CARONgCA",
     "PITAL LETTER O WITH CARONgSMALL LETTER O WITH CARONgCAPITAL LETTER U WITH CARONgSMALL LETT",
     "ER U WITH CARONgCAPITAL LETTER U WITH DIAERESIS AND MACRONgSMALL LETTER U WITH DIAERESIS A",
     "ND MACRONgCAPITAL LETTER U WITH DIAERESIS AND ACUTEgSMALL LETTER U WITH DIAERESIS AND ACUT",
     "EgCAPITAL LETTER U WITH DIAERESIS AND CARONgSMALL LETTER U WITH DIAERESIS AND CARONgCAPITA",
     "L LETTER U WITH DIAERESIS AND GRAVEgSMALL LETTER U WITH DIAERESIS AND GRAVEtTURNED EgCAPIT",
     "AL LETTER A WITH DIAERESIS AND MACRONgSMALL LETTER A WITH DIAERESIS AND MACRON"]),
    (0x01E0,
    ["aLATIN CAPITAL LETTER A WITH DOT ABOVE AND MACRONgSMALL LETTER A WITH DOT ABOVE AND MACRON",
     "gCAPITAL LETTER AE WITH MACRONgSMALL LETTER AE WITH MACRONgCAPITAL LETTER G WITH STROKEgSM",
     "ALL LETTER G WITH STROKEgCAPITAL LETTER G WITH CARONgSMALL LETTER G WITH CARONgCAPITAL LET",
     "TER K WITH CARONgSMALL LETTER K WITH CARONgCAPITAL LETTER O WITH OGONEKgSMALL LETTER O WIT",
     "H OGONEKgCAPITAL LETTER O WITH OGONEK AND MACRONgSMALL LETTER O WITH OGONEK AND MACRONgCAP",
     "ITAL LETTER EZH WITH CARONgSMALL LETTER EZH WITH CARONtJ WITH CARONgCAPITAL LETTER DZw WIT",
     "H SMALL LETTER ZgSMALL LETTER DZgCAPITAL LETTER G WITH ACUTEgSMALL LETTER G WITH ACUTEgCAP",
     "ITAL LETTER HWAIRvWYNNvN WITH GRAVEgSMALL LETTER N WITH GRAVEgCAPITAL LETTER A WITH RING A",
     "BOVE AND ACUTEgSMALL LETTER A WITH RING ABOVE AND ACUTEgCAPITAL LETTER AE WITH ACUTEgSMALL",
     " LETTER AE WITH ACUTEgCAPITAL LETTER O WITH STROKE AND ACUTEgSMALL LETTER O WITH STROKE AN",
     "D ACUTEgCAPITAL LETTER A WITH DOUBLE GRAVEgSMALL LETTER A WITH DOUBLE GRAVEgCAPITAL LETTER",
     " A WITH INVERTED BREVEgSMALL LETTER A WITH INVERTED BREVEgCAPITAL LETTER E WITH DOUBLE GRA",
     "VEgSMALL LETTER E WITH DOUBLE GRAVEgCAPITAL LETTER E WITH INVERTED BREVEgSMALL LETTER E WI",
     "TH INVERTED BREVEgCAPITAL LETTER I WITH DOUBLE GRAVEgSMALL LETTER I WITH DOUBLE GRAVEgCAPI",
     "TAL LETTER I WITH INVERTED BREVEgSMALL LETTER I WITH INVERTED BREVEgCAPITAL LETTER O WITH ",
     "DOUBLE GRAVEgSMALL LETTER O WITH DOUBLE GRAVEgCAPITAL LETTER O WITH INVERTED BREVEgSMALL L",
     "ETTER O WITH INVERTED BREVEgCAPITAL LETTER R WITH DOUBLE GRAVEgSMALL LETTER R WITH DOUBLE ",
     "GRAVEgCAPITAL LETTER R WITH INVERTED BREVEgSMALL LETTER R WITH INVERTED BREVEgCAPITAL LETT",
     "ER U WITH DOUBLE GRAVEgSMALL LETTER U WITH DOUBLE GRAVEgCAPITAL LETTER U WITH INVERTED BRE",
     "VEgSMALL LETTER U WITH INVERTED BREVEgCAPITAL LETTER S WITH COMMA BELOWgSMALL LETTER S WIT",
     "H COMMA BELOWgCAPITAL LETTER T WITH COMMA BELOWgSMALL LETTER T WITH COMMA BELOWgCAPITAL LE",
     "TTER YOGHgSMALL LETTER YOGHgCAPITAL LETTER H WITH CARONgSMALL LETTER H WITH CARON"]),
    (0x0220,
    ["aLATIN CAPITAL LETTER N WITH LONG RIGHT LEGgSMALL LETTER D WITH CURLgCAPITAL LETTER OUgSMA",
     "LL LETTER OUgCAPITAL LETTER Z WITH HOOKgSMALL LETTER Z WITH HOOKgCAPITAL LETTER A WITH DOT",
     " ABOVEgSMALL LETTER A WITH DOT ABOVEgCAPITAL LETTER E WITH CEDILLAgSMALL LETTER E WITH CED",
     "ILLAgCAPITAL LETTER O WITH DIAERESIS AND MACRONgSMALL LETTER O WITH DIAERESIS AND MACRONgC",
     "APITAL LETTER O WITH TILDE AND MACRONgSMALL LETTER O WITH TILDE AND MACRONgCAPITAL LETTER ",
     "O WITH DOT ABOVEgSMALL LETTER O WITH DOT ABOVEgCAPITAL LETTER O WITH DOT ABOVE AND MACRONg",
     "SMALL LETTER O WITH DOT ABOVE AND MACRONgCAPITAL LETTER Y WITH MACRONgSMALL LETTER Y WITH ",
     "MACRONtL WITH CURLtN WITH CURLtT WITH CURLtDOTLESS JuB DIGRAPHtQP DIGRAPHgCAPITAL LETTER A",
     " WITH STROKEvC WITH STROKEgSMALL LETTER C WITH STROKEgCAPITAL LETTER L WITH BARvT WITH DIA",
     "GONAL STROKEgSMALL LETTER S WITH SWASH TAILtZ WITH SWASH TAILgCAPITAL LETTER GLOTTAL STOPg",
     "SMALL LETTER GLOTTAL STOPgCAPITAL LETTER B WITH STROKEvU BARvTURNED VvE WITH STROKEgSMALL ",
     "LETTER E WITH STROKEgCAPITAL LETTER J WITH STROKEgSMALL LETTER J WITH STROKEgCAPITAL LETTE",
     "R SMALL Q WITH HOOK TAILgSMALL LETTER Q WITH HOOK TAILgCAPITAL LETTER R WITH STROKEgSMALL ",
     "LETTER R WITH STROKEgCAPITAL LETTER Y WITH STROKEgSMALL LETTER Y WITH STROKEtTURNED AtALPH",
     "AtTURNED ALPHAtB WITH HOOKtOPEN OtC WITH CURLtD WITH TAILz HOOKtREVERSED EtSCHWAy WITH HOO",
     "KtOPEN EtREVERSED OPEN EzED OPEN E WITH HOOKtCLOSED REVERSED OPEN EtDOTLESS J WITH STROKE"]),
    (0x0260,
    ["aLATIN SMALL LETTER G WITH HOOKtSCRIPT GgLETTER SMALL CAPITAL GgSMALL LETTER GAMMAtRAMS HO",
     "RNtTURNED HtH WITH HOOKuENG WITH HOOKtI WITH STROKEuOTAgLETTER SMALL CAPITAL IgSMALL LETTE",
     "R L WITH MIDDLE TILDEz BELTz RETROFLEX HOOKuEZHtTURNED Mz M WITH LONG LEGtM WITH HOOKtN WI",
     "TH LEFT HOOKz RETROFLEX HOOKgLETTER SMALL CAPITAL NgSMALL LETTER BARRED OgLETTER SMALL CAP",
     "ITAL OEgSMALL LETTER CLOSED OMEGAtPHItTURNED Rz R WITH LONG LEGz R WITH HOOKtR WITH LONG L",
     "EGz TAILz FISHHOOKuEVERSED R WITH FISHHOOKgLETTER SMALL CAPITAL RzL INVERTED RgSMALL LETTE",
     "R S WITH HOOKtESHtDOTLESS J WITH STROKE AND HOOKtSQUAT REVERSED ESHtESH WITH CURLtTURNED T",
     "u WITH RETROFLEX HOOKtU BARuPSILONtV WITH HOOKtTURNED Vz Wz YgLETTER SMALL CAPITAL YgSMALL",
     " LETTER Z WITH RETROFLEX HOOKz CURLtEZHw WITH CURLgLETTER GLOTTAL STOPnPHARYNGEAL VOICED F",
     "RICATIVEnINVERTED GLOTTAL STOPnSTRETCHED CnBILABIAL CLICKnSMALL CAPITAL BgSMALL LETTER CLO",
     "SED OPEN EgLETTER SMALL CAPITAL G WITH HOOKzL HgSMALL LETTER J WITH CROSSED-TAILtTURNED Kg",
     "LETTER SMALL CAPITAL L"]),
    (0x02A0,
    ["aLATIN SMALL LETTER Q WITH HOOKgLETTER GLOTTAL STOP WITH STROKEnREVERSED GLOTTAL STOP WITH",
     " STROKEgSMALL LETTER DZ DIGRAPHuEZH DIGRAPHuZ DIGRAPH WITH CURLtTS DIGRAPHuESH DIGRAPHuC D",
     "IGRAPH WITH CURLtFENG DIGRAPHtLS DIGRAPHuZ DIGRAPHgLETTER BILABIAL PERCUSSIVEpDENTAL PERCU",
     "SSIVEgSMALL LETTER TURNED H WITH FISHHOOKz H WITH FISHHOOK AND TAILaMODIFIER LETTER SMALL ",
     "Hx WITH HOOKwJwRwTURNED RzNED R WITH HOOKwCAPITAL INVERTED RwWwYqPRIMEqDOUBLE PRIMEqTURNED",
     " COMMAqAPOSTROPHEqREVERSED COMMArIGHT HALF RINGqLEFT HALF RINGqGLOTTAL STOPqREVERSED GLOTT",
     "AL STOPqLEFT ARROWHEADqRIGHT ARROWHEADqUP ARROWHEADqDOWN ARROWHEADqCIRCUMFLEX ACCENTaCARON",
     "aMODIFIER LETTER VERTICAL LINEqMACRONqACUTE ACCENTqGRAVE ACCENTqLOW VERTICAL LINEuMACRONuG",
     "RAVE ACCENTuACUTE ACCENTqTRIANGULAR COLONqHALF TRIANGULAR COLONqCENTRED RIGHT HALF RINGyLE",
     "FT HALF RINGqUP TACKqDOWN TACKqPLUS SIGNqMINUS SIGNaBREVEaDOT ABOVEaRING ABOVEaOGONEKaSMAL",
     "L TILDEaDOUBLE ACUTE ACCENTaMODIFIER LETTER RHOTIC HOOKqCROSS ACCENT"]),
    (0x02E0,
    ["aMODIFIER LETTER SMALL GAMMAwLwSwXwREVERSED GLOTTAL STOPqEXTRA-HIGH TONE BARqHIGH TONE BAR",
     "qMID TONE BARqLOW TONE BARqEXTRA-LOW TONE BARqYIN DEPARTING TONE MARKrANG DEPARTING TONE M",
     "ARKqVOICINGqUNASPIRATEDqDOUBLE APOSTROPHEqLOW DOWN ARROWHEADuUP ARROWHEADuLEFT ARROWHEADuR",
     "IGHT ARROWHEADwNGqMIDDLE GRAVE ACCENTxDOUBLE GRAVE ACCENTzUBLE ACUTE ACCENTqLOW TILDEqRAIS",
     "ED COLONqBEGIN HIGH TONEqEND HIGH TONEqBEGIN LOW TONEqEND LOW TONEqSHELFqOPEN SHELFqLOW LE",
     "FT ARROWaCOMBINING GRAVE ACCENTkACUTE ACCENTkCIRCUMFLEX ACCENTkTILDEkMACRONkOVERLINEkBREVE",
     "kDOT ABOVElIAERESISkHOOK ABOVEkRING ABOVEkDOUBLE ACUTE ACCENTkCARONkVERTICAL LINE ABOVEkDO",
     "UBLE VERTICAL LINE ABOVErGRAVE ACCENTkCANDRABINDUkINVERTED BREVEkTURNED COMMA ABOVEkCOMMA ",
     "ABOVEkREVERSED COMMA ABOVEkCOMMA ABOVE RIGHTkGRAVE ACCENT BELOWkACUTE ACCENT BELOWkLEFT TA",
     "CK BELOWkRIGHT TACK BELOWkLEFT ANGLE ABOVEkHORNkLEFT HALF RING BELOWkUP TACK BELOWkDOWN TA",
     "CK BELOWkPLUS SIGN BELOW"]),
    (0x0320,
    ["aCOMBINING MINUS SIGN BELOWkPALATALIZED HOOK BELOWkRETROFLEX HOOK BELOWkDOT BELOWlIAERESIS",
     " BELOWkRING BELOWkCOMMA BELOWlEDILLAkOGONEKkVERTICAL LINE BELOWkBRIDGE BELOWkINVERTED DOUB",
     "LE ARCH BELOWkCARON BELOWlIRCUMFLEX ACCENT BELOWkBREVE BELOWkINVERTED BREVE BELOWkTILDE BE",
     "LOWkMACRON BELOWkLOW LINEkDOUBLE LOW LINEkTILDE OVERLAYkSHORT STROKE OVERLAYkLONG STROKE O",
     "VERLAYkSHORT SOLIDUS OVERLAYkLONG SOLIDUS OVERLAYkRIGHT HALF RING BELOWkINVERTED BRIDGE BE",
     "LOWkSQUARE BELOWlEAGULL BELOWkX ABOVEkVERTICAL TILDEkDOUBLE OVERLINEkGRAVE TONE MARKkACUTE",
     " TONE MARKkGREEK PERISPOMENIqKORONISqDIALYTIKA TONOSqYPOGEGRAMMENIkBRIDGE ABOVEkEQUALS SIG",
     "N BELOWkDOUBLE VERTICAL LINE BELOWkLEFT ANGLE BELOWkNOT TILDE ABOVEkHOMOTHETIC ABOVEkALMOS",
     "T EQUAL TO ABOVEkLEFT RIGHT ARROW BELOWkUPWARDS ARROW BELOWkGRAPHEME JOINERkRIGHT ARROWHEA",
     "D ABOVEkLEFT HALF RING ABOVEkFERMATAkX BELOWkLEFT ARROWHEAD BELOWkRIGHT ARROWHEAD BELOWz A",
     "ND UP ARROWHEAD BELOWqHALF RING ABOVEkDOT ABOVE RIGHTkASTERISK BELOWkDOUBLE RING BELOWkZIG",
     "ZAG ABOVEkDOUBLE BREVE BELOWwrMACRONx BELOW"]),
    (0x0360,
    ["aCOMBINING DOUBLE TILDErINVERTED BREVErRIGHTWARDS ARROW BELOWkLATIN SMALL LETTER AzTER EzT",
     "ER IzTER OzTER UzTER CzTER DzTER HzTER MzTER RzTER TzTER VzTER XaGREEK CAPITAL LETTER HETA",
     "gSMALL LETTER HETAgCAPITAL LETTER ARCHAIC SAMPIgSMALL LETTER ARCHAIC SAMPIgNUMERAL SIGNgLO",
     "WER NUMERAL SIGNgCAPITAL LETTER PAMPHYLIAN DIGAMMAgSMALL LETTER PAMPHYLIAN DIGAMMA"]),
    (0x037A,
    ["aGREEK YPOGEGRAMMENIgSMALL REVERSED LUNATE SIGMA SYMBOLmDOTTED LUNATE SIGMA SYMBOLmREVERSE",
     "D DOTTED LUNATE SIGMA SYMBOLgQUESTION MARKgCAPITAL LETTER YOT"]),
    (0x0384,
    ["aGREEK TONOSgDIALYTIKA TONOSgCAPITAL LETTER ALPHA WITH TONOSgANO TELEIAgCAPITAL LETTER EPS",
     "ILON WITH TONOSwTA WITH TONOSvIOTA WITH TONOS"]),
    (0x038C,
    ["aGREEK CAPITAL LETTER OMICRON WITH TONOS"]),
    (0x038E,
    ["aGREEK CAPITAL LETTER UPSILON WITH TONOSvOMEGA WITH TONOSgSMALL LETTER IOTA WITH DIALYTIKA",
     " AND TONOSgCAPITAL LETTER ALPHAvBETAvGAMMAvDELTAvEPSILONvZETAvETAvTHETAvIOTAvKAPPAvLAMDAvM",
     "UvNUvXIvOMICRONvPIvRHO"]),
    (0x03A3,
    ["aGREEK CAPITAL LETTER SIGMAvTAUvUPSILONvPHIvCHIvPSIvOMEGAvIOTA WITH DIALYTIKAvUPSILON WITH",
     " DIALYTIKAgSMALL LETTER ALPHA WITH TONOStEPSILON WITH TONOSuTA WITH TONOStIOTA WITH TONOSt",
     "UPSILON WITH DIALYTIKA AND TONOStALPHAtBETAtGAMMAtDELTAtEPSILONtZETAtETAtTHETAtIOTAtKAPPAt",
     "LAMDAtMUtNUtXItOMICRONtPItRHOtFINAL SIGMAtSIGMAtTAUtUPSILONtPHItCHItPSItOMEGAtIOTA WITH DI",
     "ALYTIKAtUPSILON WITH DIALYTIKAtOMICRON WITH TONOStUPSILON WITH TONOStOMEGA WITH TONOSgCAPI",
     "TAL KAI SYMBOLgBETA SYMBOLgTHETA SYMBOLgUPSILON WITH HOOK SYMBOLtACUTE AND HOOK SYMBOLtDIA",
     "ERESIS AND HOOK SYMBOLgPHI SYMBOLhI SYMBOLgKAI SYMBOLgLETTER ARCHAIC KOPPAgSMALL LETTER AR",
     "CHAIC KOPPAgLETTER STIGMAgSMALL LETTER STIGMAgLETTER DIGAMMAgSMALL LETTER DIGAMMAgLETTER K",
     "OPPAgSMALL LETTER KOPPAgLETTER SAMPIgSMALL LETTER SAMPIaCOPTIC CAPITAL LETTER SHEI"]),
    (0x03E3,
    ["aCOPTIC SMALL LETTER SHEIhCAPITAL LETTER FEIhSMALL LETTER FEIhCAPITAL LETTER KHEIhSMALL LE",
     "TTER KHEIhCAPITAL LETTER HORIhSMALL LETTER HORIhCAPITAL LETTER GANGIAhSMALL LETTER GANGIAh",
     "CAPITAL LETTER SHIMAhSMALL LETTER SHIMAhCAPITAL LETTER DEIhSMALL LETTER DEIaGREEK KAPPA SY",
     "MBOLgRHO SYMBOLgLUNATE SIGMA SYMBOLhETTER YOTgCAPITAL THETA SYMBOLgLUNATE EPSILON SYMBOLgR",
     "EVERSED LUNATE EPSILON SYMBOLgCAPITAL LETTER SHOgSMALL LETTER SHOgCAPITAL LUNATE SIGMA SYM",
     "BOLpETTER SANgSMALL LETTER SANgRHO WITH STROKE SYMBOLgCAPITAL REVERSED LUNATE SIGMA SYMBOL",
     "oDOTTED LUNATE SIGMA SYMBOLoREVERSED DOTTED LUNATE SIGMA SYMBOLaCYRILLIC CAPITAL LETTER IE",
     " WITH GRAVEzOyDJEyGJEyUKRAINIAN IEyDZEyBYELORUSSIAN-UKRAINIAN IyYIyJEyLJEyNJEyTSHEyKJEyI W",
     "ITH GRAVEySHORT UyDZHEyAyBEyVEyGHEyDEyIEyZHEzEyIySHORT IyKAyELzMzNyOyPEyERzSyTE"]),
    (0x0423,
    ["aCYRILLIC CAPITAL LETTER UyEFyHAyTSEyCHEySHAzHCHAyHARD SIGNyYERUySOFT SIGNyEyYUzAjSMALL LE",
     "TTER AwBEwVEwGHEwDEwIEwZHExEwIwSHORT IwKAwELxMxNwOwPEwERxSwTEwUwEFwHAwTSEwCHEwSHAyCHAwHARD",
     " SIGNwYERUwSOFT SIGNwEwYUxAwIE WITH GRAVExOwDJEwGJEwUKRAINIAN IEwDZEwBYELORUSSIAN-UKRAINIA",
     "N IwYIwJEwLJEwNJEwTSHEwKJEwI WITH GRAVEwSHORT UwDZHEjCAPITAL LETTER OMEGAjSMALL LETTER OME",
     "GAjCAPITAL LETTER YAT"]),
    (0x0463,
    ["aCYRILLIC SMALL LETTER YATjCAPITAL LETTER IOTIFIED EjSMALL LETTER IOTIFIED EjCAPITAL LETTE",
     "R LITTLE YUSjSMALL LETTER LITTLE YUSjCAPITAL LETTER IOTIFIED LITTLE YUSjSMALL LETTER IOTIF",
     "IED LITTLE YUSjCAPITAL LETTER BIG YUSjSMALL LETTER BIG YUSjCAPITAL LETTER IOTIFIED BIG YUS",
     "jSMALL LETTER IOTIFIED BIG YUSjCAPITAL LETTER KSIjSMALL LETTER KSIjCAPITAL LETTER PSIjSMAL",
     "L LETTER PSIjCAPITAL LETTER FITAjSMALL LETTER FITAjCAPITAL LETTER IZHITSAjSMALL LETTER IZH",
     "ITSAjCAPITAL LETTER IZHITSA WITH DOUBLE GRAVE ACCENTjSMALL LETTER IZHITSA WITH DOUBLE GRAV",
     "E ACCENTjCAPITAL LETTER UKjSMALL LETTER UKjCAPITAL LETTER ROUND OMEGAjSMALL LETTER ROUND O",
     "MEGAjCAPITAL LETTER OMEGA WITH TITLOjSMALL LETTER OMEGA WITH TITLOjCAPITAL LETTER OTjSMALL",
     " LETTER OTjCAPITAL LETTER KOPPAjSMALL LETTER KOPPAjTHOUSANDS SIGNbOMBINING CYRILLIC TITLOt",
     "PALATALIZATIONtDASIA PNEUMATAtPSILI PNEUMATAuOKRYTIEtHUNDRED THOUSANDS SIGNtMILLIONS SIGNb",
     "YRILLIC CAPITAL LETTER SHORT I WITH TAILjSMALL LETTER SHORT I WITH TAILjCAPITAL LETTER SEM",
     "ISOFT SIGNjSMALL LETTER SEMISOFT SIGNjCAPITAL LETTER ER WITH TICKjSMALL LETTER ER WITH TIC",
     "KjCAPITAL LETTER GHE WITH UPTURNjSMALL LETTER GHE WITH UPTURNjCAPITAL LETTER GHE WITH STRO",
     "KEjSMALL LETTER GHE WITH STROKEjCAPITAL LETTER GHE WITH MIDDLE HOOKjSMALL LETTER GHE WITH ",
     "MIDDLE HOOKjCAPITAL LETTER ZHE WITH DESCENDERjSMALL LETTER ZHE WITH DESCENDERjCAPITAL LETT",
     "ER ZE WITH DESCENDERjSMALL LETTER ZE WITH DESCENDERjCAPITAL LETTER KA WITH DESCENDERjSMALL",
     " LETTER KA WITH DESCENDERjCAPITAL LETTER KA WITH VERTICAL STROKEjSMALL LETTER KA WITH VERT",
     "ICAL STROKEjCAPITAL LETTER KA WITH STROKEjSMALL LETTER KA WITH STROKEjCAPITAL LETTER BASHK",
     "IR KAjSMALL LETTER BASHKIR KAjCAPITAL LETTER EN WITH DESCENDER"]),
    (0x04A3,
    ["aCYRILLIC SMALL LETTER EN WITH DESCENDERjCAPITAL LIGATURE EN GHEjSMALL LIGATURE EN GHEjCAP",
     "ITAL LETTER PE WITH MIDDLE HOOKjSMALL LETTER PE WITH MIDDLE HOOKjCAPITAL LETTER ABKHASIAN ",
     "HAjSMALL LETTER ABKHASIAN HAjCAPITAL LETTER ES WITH DESCENDERjSMALL LETTER ES WITH DESCEND",
     "ERjCAPITAL LETTER TE WITH DESCENDERjSMALL LETTER TE WITH DESCENDERjCAPITAL LETTER STRAIGHT",
     " UjSMALL LETTER STRAIGHT UjCAPITAL LETTER STRAIGHT U WITH STROKEjSMALL LETTER STRAIGHT U W",
     "ITH STROKEjCAPITAL LETTER HA WITH DESCENDERjSMALL LETTER HA WITH DESCENDERjCAPITAL LIGATUR",
     "E TE TSEjSMALL LIGATURE TE TSEjCAPITAL LETTER CHE WITH DESCENDERjSMALL LETTER CHE WITH DES",
     "CENDERjCAPITAL LETTER CHE WITH VERTICAL STROKEjSMALL LETTER CHE WITH VERTICAL STROKEjCAPIT",
     "AL LETTER SHHAjSMALL LETTER SHHAjCAPITAL LETTER ABKHASIAN CHEjSMALL LETTER ABKHASIAN CHEjC",
     "APITAL LETTER ABKHASIAN CHE WITH DESCENDERjSMALL LETTER ABKHASIAN CHE WITH DESCENDERjLETTE",
     "R PALOCHKAjCAPITAL LETTER ZHE WITH BREVEjSMALL LETTER ZHE WITH BREVEjCAPITAL LETTER KA WIT",
     "H HOOKjSMALL LETTER KA WITH HOOKjCAPITAL LETTER EL WITH TAILjSMALL LETTER EL WITH TAILjCAP",
     "ITAL LETTER EN WITH HOOKjSMALL LETTER EN WITH HOOKjCAPITAL LETTER EN WITH TAILjSMALL LETTE",
     "R EN WITH TAILjCAPITAL LETTER KHAKASSIAN CHEjSMALL LETTER KHAKASSIAN CHEjCAPITAL LETTER EM",
     " WITH TAILjSMALL LETTER EM WITH TAILwPALOCHKAjCAPITAL LETTER A WITH BREVEjSMALL LETTER A W",
     "ITH BREVEjCAPITAL LETTER A WITH DIAERESISjSMALL LETTER A WITH DIAERESISjCAPITAL LIGATURE A",
     " IEjSMALL LIGATURE A IEjCAPITAL LETTER IE WITH BREVEjSMALL LETTER IE WITH BREVEjCAPITAL LE",
     "TTER SCHWAjSMALL LETTER SCHWAjCAPITAL LETTER SCHWA WITH DIAERESISjSMALL LETTER SCHWA WITH ",
     "DIAERESISjCAPITAL LETTER ZHE WITH DIAERESISjSMALL LETTER ZHE WITH DIAERESISjCAPITAL LETTER",
     " ZE WITH DIAERESISjSMALL LETTER ZE WITH DIAERESISjCAPITAL LETTER ABKHASIAN DZEjSMALL LETTE",
     "R ABKHASIAN DZEjCAPITAL LETTER I WITH MACRON"]),
    (0x04E3,
    ["aCYRILLIC SMALL LETTER I WITH MACRONjCAPITAL LETTER I WITH DIAERESISjSMALL LETTER I WITH D",
     "IAERESISjCAPITAL LETTER O WITH DIAERESISjSMALL LETTER O WITH DIAERESISjCAPITAL LETTER BARR",
     "ED OjSMALL LETTER BARRED OjCAPITAL LETTER BARRED O WITH DIAERESISjSMALL LETTER BARRED O WI",
     "TH DIAERESISjCAPITAL LETTER E WITH DIAERESISjSMALL LETTER E WITH DIAERESISjCAPITAL LETTER ",
     "U WITH MACRONjSMALL LETTER U WITH MACRONjCAPITAL LETTER U WITH DIAERESISjSMALL LETTER U WI",
     "TH DIAERESISjCAPITAL LETTER U WITH DOUBLE ACUTEjSMALL LETTER U WITH DOUBLE ACUTEjCAPITAL L",
     "ETTER CHE WITH DIAERESISjSMALL LETTER CHE WITH DIAERESISjCAPITAL LETTER GHE WITH DESCENDER",
     "jSMALL LETTER GHE WITH DESCENDERjCAPITAL LETTER YERU WITH DIAERESISjSMALL LETTER YERU WITH",
     " DIAERESISjCAPITAL LETTER GHE WITH STROKE AND HOOKjSMALL LETTER GHE WITH STROKE AND HOOKjC",
     "APITAL LETTER HA WITH HOOKjSMALL LETTER HA WITH HOOKjCAPITAL LETTER HA WITH STROKEjSMALL L",
     "ETTER HA WITH STROKEjCAPITAL LETTER KOMI DEjSMALL LETTER KOMI DEjCAPITAL LETTER KOMI DJEjS",
     "MALL LETTER KOMI DJEjCAPITAL LETTER KOMI ZJEjSMALL LETTER KOMI ZJEjCAPITAL LETTER KOMI DZJ",
     "EjSMALL LETTER KOMI DZJEjCAPITAL LETTER KOMI LJEjSMALL LETTER KOMI LJEjCAPITAL LETTER KOMI",
     " NJEjSMALL LETTER KOMI NJEjCAPITAL LETTER KOMI SJEjSMALL LETTER KOMI SJEjCAPITAL LETTER KO",
     "MI TJEjSMALL LETTER KOMI TJEjCAPITAL LETTER REVERSED ZEjSMALL LETTER REVERSED ZEjCAPITAL L",
     "ETTER EL WITH HOOKjSMALL LETTER EL WITH HOOKjCAPITAL LETTER LHAjSMALL LETTER LHAjCAPITAL L",
     "ETTER RHAjSMALL LETTER RHAjCAPITAL LETTER YAEjSMALL LETTER YAEjCAPITAL LETTER QAjSMALL LET",
     "TER QAjCAPITAL LETTER WEjSMALL LETTER WEjCAPITAL LETTER ALEUT KAjSMALL LETTER ALEUT KAjCAP",
     "ITAL LETTER EL WITH MIDDLE HOOKjSMALL LETTER EL WITH MIDDLE HOOKjCAPITAL LETTER EN WITH MI",
     "DDLE HOOK"]),
    (0x0523,
    ["aCYRILLIC SMALL LETTER EN WITH MIDDLE HOOKjCAPITAL LETTER PE WITH DESCENDERjSMALL LETTER P",
     "E WITH DESCENDERjCAPITAL LETTER SHHA WITH DESCENDERjSMALL LETTER SHHA WITH DESCENDERjCAPIT",
     "AL LETTER EN WITH LEFT HOOKjSMALL LETTER EN WITH LEFT HOOKjCAPITAL LETTER DZZHEjSMALL LETT",
     "ER DZZHEjCAPITAL LETTER DCHEjSMALL LETTER DCHEjCAPITAL LETTER EL WITH DESCENDERjSMALL LETT",
     "ER EL WITH DESCENDER"]),
    (0x0531,
    ["aARMENIAN CAPITAL LETTER AYByBENyGIMyDAyECHyZAyEHzTyTOyZHEyINIyLIWNyXEHyCAyKENyHOyJAyGHADy",
     "CHEHyMENyYIyNOWySHAyVOyCHAyPEHyJHEHyRAySEHyVEWyTIWNyREHyCOyYIWNyPIWRyKEHyOHyFEH"]),
    (0x0559,
    ["aARMENIAN MODIFIER LETTER LEFT HALF RINGjAPOSTROPHEjEMPHASIS MARKkXCLAMATION MARKjCOMMAjQU",
     "ESTION MARKjABBREVIATION MARKjSMALL LETTER TURNED AYBwAYBwBENwGIMwDAwECHwZAwEHxTwTOwZHEwIN",
     "IwLIWNwXEHwCAwKENwHOwJAwGHADwCHEHwMENwYIwNOWwSHAwVOwCHAwPEHwJHEHwRAwSEHwVEWwTIWNwREHwCOwYI",
     "WNwPIWRwKEHwOHwFEHqIGATURE ECH YIWNqETTER YI WITH STROKEjFULL STOPjHYPHEN"]),
    (0x058D,
    ["aRIGHT-FACING ARMENIAN ETERNITY SIGNaLEFT-FACING ARMENIAN ETERNITY SIGNaARMENIAN DRAM SIGN"]),
    (0x0591,
    ["aHEBREW ACCENT ETNAHTAoSEGOLpHALSHELEToZAQEF QATANuGADOLoTIPEHAoREVIAoZARQAoPASHTAoYETIVoT",
     "EVIRoGERESHu MUQDAMrSHAYIMoQARNEY PARAoTELISHA GEDOLAoPAZERoATNAH HAFUKHoMUNAHpAHAPAKHpERK",
     "HAu KEFULAoDARGAoQADMAoTELISHA QETANAoYERAH BEN YOMOoOLEoILUYoDEHIoZINORhMARK MASORA CIRCL",
     "EhPOINT SHEVAnHATAF SEGOLtPATAHtQAMATSoIRIQnTSEREnSEGOLnPATAHnQAMATSnHOLAMs HASER FOR VAVn",
     "QUBUTSnDAGESH OR MAPIQnMETEGiUNCTUATION MAQAFiOINT RAFEiUNCTUATION PASEQiOINT SHIN DOToIN ",
     "DOTiUNCTUATION SOF PASUQhMARK UPPER DOTmLOWER DOThPUNCTUATION NUN HAFUKHAiOINT QAMATS QATA",
     "N"]),
    (0x05D0,
    ["aHEBREW LETTER ALEFoBEToGIMELoDALEToHEoVAVoZAYINoHEToTEToYODoFINAL KAFoKAFoLAMEDoFINAL MEM",
     "oMEMoFINAL NUNoNUNoSAMEKHoAYINoFINAL PEoPEoFINAL TSADIoTSADIoQOFoRESHoSHINoTAV"]),
    (0x05EF,
    ["aHEBREW YOD TRIANGLEhLIGATURE YIDDISH DOUBLE VAVyVAV YODyDOUBLE YODhPUNCTUATION GERESHwSHA",
     "YIM"]),
    (0x0600,
    ["aARABIC NUMBER SIGNhSIGN SANAHhFOOTNOTE MARKERhSIGN SAFHAoMVAThNUMBER MARK ABOVEg-INDIC CU",
     "BE ROOTnFOURTH ROOTg RAYg-INDIC PER MILLE SIGNrTEN THOUSAND SIGNbFGHANI SIGNbRABIC COMMAhD",
     "ATE SEPARATORhPOETIC VERSE SIGNhSIGN MISRAmSALLALLAHOU ALAYHE WASSALLAMmALAYHE ASSALLAMmRA",
     "HMATULLAH ALAYHEoDI ALLAHOU ANHUmTAKHALLUSiMALL HIGH TAHsLIGATURE ALEF WITH LAM WITH YEHsZ",
     "AINnFATHAnDAMMAnKASRAiEMICOLONhLETTER MARKhEND OF TEXT MARKhTRIPLE DOT PUNCTUATION MARKhQU",
     "ESTION MARKhLETTER KASHMIRI YEHoHAMZAoALEF WITH MADDA ABOVEyHAMZA ABOVEoWAW WITH HAMZA ABO",
     "VEoALEF WITH HAMZA BELOWoYEH WITH HAMZA ABOVEoALEFoBEHoTEH MARBUTArpHEHoJEEMoHAHoKHAHoDALo",
     "THALoREHoZAINoSEENpHEENpADoDADoTAHoZAHoAINoGHAINoKEHEH WITH TWO DOTS ABOVEzTHREE DOTS BELO",
     "WoFARSI YEH WITH INVERTED VzITH TWO DOTS ABOVEzITH THREE DOTS ABOVE"]),
    (0x0640,
    ["aARABIC TATWEELhLETTER FEHoQAFoKAFoLAMoMEEMoNOONoHEHoWAWoALEF MAKSURAoYEHhFATHATANhDAMMATA",
     "NhKASRATANhFATHAhDAMMAhKASRAhSHADDAiUKUNhMADDAH ABOVEhHAMZA ABOVEnBELOWhSUBSCRIPT ALEFhINV",
     "ERTED DAMMAhMARK NOON GHUNNAhZWARAKAYhVOWEL SIGN SMALL V ABOVEsINVERTED SMALL V ABOVEsDOT ",
     "BELOWhREVERSED DAMMAhFATHA WITH TWO DOTShWAVY HAMZA BELOWg-INDIC DIGIT ZEROtONEtTWOuHREEtF",
     "OURuIVEtSIXuEVENtEIGHTtNINEg PERCENT SIGNhDECIMAL SEPARATORhTHOUSANDS SEPARATORhFIVE POINT",
     "ED STARhLETTER DOTLESS BEHwQAFoSUPERSCRIPT ALEFoALEF WASLAuITH WAVY HAMZA ABOVEzAVY HAMZA ",
     "BELOWoHIGH HAMZAy ALEFzWAWoU WITH HAMZA ABOVEoHIGH HAMZA YEHoTTEHsEHoBEEHoTEH WITH RINGxTH",
     "REE DOTS ABOVE DOWNWARDSoPEHoTEHEH"]),
    (0x0680,
    ["aARABIC LETTER BEHEHoHAH WITH HAMZA ABOVExTWO DOTS VERTICAL ABOVEoNYEHoDYEHoHAH WITH THREE",
     " DOTS ABOVEoTCHEHtEHoDDALpAL WITH RINGxDOT BELOWzT BELOW AND SMALL TAHqHALpDAHALpULpAL WIT",
     "H THREE DOTS ABOVE DOWNWARDSxFOUR DOTS ABOVEoRREHpEH WITH SMALL VxRINGxDOT BELOWxSMALL V B",
     "ELOWxDOT BELOW AND DOT ABOVExTWO DOTS ABOVEoJEHoREH WITH FOUR DOTS ABOVEoSEEN WITH DOT BEL",
     "OW AND DOT ABOVEyTHREE DOTS BELOWzHREE DOTS BELOW AND THREE DOTS ABOVEpAD WITH TWO DOTS BE",
     "LOWyHREE DOTS ABOVEoTAH WITH THREE DOTS ABOVEoAIN WITH THREE DOTS ABOVEoDOTLESS FEHoFEH WI",
     "TH DOT MOVED BELOWzT BELOWoVEHoFEH WITH THREE DOTS BELOWoPEHEHoQAF WITH DOT ABOVExTHREE DO",
     "TS ABOVEoKEHEHoSWASH KAFoKAF WITH RINGxDOT ABOVEoNGoKAF WITH THREE DOTS BELOWoGAFr WITH RI",
     "NGoNGOEHoGAF WITH TWO DOTS BELOWpUEHpAF WITH THREE DOTS ABOVEoLAM WITH SMALL VxDOT ABOVExT",
     "HREE DOTS ABOVEzREE DOTS BELOWoNOON WITH DOT BELOWtGHUNNAoRNOONoNOON WITH RINGyTHREE DOTS ",
     "ABOVEoHEH DOACHASHMEEoTCHEH WITH DOT ABOVE"]),
    (0x06C0,
    ["aARABIC LETTER HEH WITH YEH ABOVEsGOALw WITH HAMZA ABOVEoTEH MARBUTA GOALoWAW WITH RINGoKI",
     "RGHIZ OEoOEoUoYUoKIRGHIZ YUoWAW WITH TWO DOTS ABOVEoVEoFARSI YEHoYEH WITH TAILxSMALL VoWAW",
     " WITH DOT ABOVEoEoYEH WITH THREE DOTS BELOWsBARREEy WITH HAMZA ABOVEhFULL STOPhLETTER AEhS",
     "MALL HIGH LIGATURE SAD WITH LAM WITH ALEF MAKSURAzE QAF WITH LAM WITH ALEF MAKSURAsMEEM IN",
     "ITIAL FORMsLAM ALEFsJEEMsTHREE DOTSsSEENhEND OF AYAHhSTART OF RUB EL HIZBiMALL HIGH ROUNDE",
     "D ZEROsUPRIGHT RECTANGULAR ZEROsDOTLESS HEAD OF KHAHsMEEM ISOLATED FORMnLOW SEENnHIGH MADD",
     "AnWAWnYEHnHIGH YEHsNOONhPLACE OF SAJDAHhEMPTY CENTRE LOW STOPuHIGH STOPhROUNDED HIGH STOP ",
     "WITH FILLED CENTREhSMALL LOW MEEMhLETTER DAL WITH INVERTED VoREH WITH INVERTED VaEXTENDED ",
     "ARABIC-INDIC DIGIT ZEROzIT ONEzIT TWOzIT THREEzIT FOURzIT FIVEzIT SIXzIT SEVENzIT EIGHTzIT",
     " NINEaARABIC LETTER SHEEN WITH DOT BELOWoDAD WITH DOT BELOWoGHAIN WITH DOT BELOWhSIGN SIND",
     "HI AMPERSANDtPOSTPOSITION MENhLETTER HEH WITH INVERTED V"]),
    (0x0700,
    ["aSYRIAC END OF PARAGRAPHhSUPRALINEAR FULL STOPjBLINEAR FULL STOPjPRALINEAR COLONjBLINEAR C",
     "OLONhHORIZONTAL COLONhCOLON SKEWED LEFTuRIGHThSUPRALINEAR COLON SKEWED LEFTjBLINEAR COLON ",
     "SKEWED RIGHThCONTRACTIONhHARKLEAN OBELUSqMETOBELUSqASTERISCUS"]),
    (0x070F,
    ["aSYRIAC ABBREVIATION MARKhLETTER ALAPHoSUPERSCRIPT ALAPHoBETHoGAMALt GARSHUNIoDALATHpOTLES",
     "S DALATH RISHoHEoWAWoZAINoHETHoTETHs GARSHUNIoYUDHs HEoKAPHoLAMADHoMIMoNUNoSEMKATHoFINAL S",
     "EMKATHoEoPEoREVERSED PEoSADHEoQAPHoRISHoSHINoTAWoPERSIAN BHETHwGHAMALwDHALATHhPTHAHA ABOVE",
     "oBELOWoDOTTEDhZQAPHA ABOVEoBELOWoDOTTEDhRBASA ABOVEnBELOWhDOTTED ZLAMA HORIZONTALuANGULARh",
     "HBASA ABOVEnBELOWm-ESASA DOTTEDhESASA ABOVEnBELOWhRWAHAhFEMININE DOThQUSHSHAYAhRUKKAKHAhTW",
     "O VERTICAL DOTS ABOVEzBELOWiHREE DOTS ABOVEsBELOWhOBLIQUE LINE ABOVEuBELOWhMUSIChBARREKH"]),
    (0x074D,
    ["aSYRIAC LETTER SOGDIAN ZHAINwKHAPHwFEaARABIC LETTER BEH WITH THREE DOTS HORIZONTALLY BELOW",
     "xDOT BELOW AND THREE DOTS ABOVExTHREE DOTS POINTING UPWARDS BELOWzREE DOTS POINTING UPWARD",
     "S BELOW AND TWO DOTS ABOVEyWO DOTS BELOW AND DOT ABOVExINVERTED SMALL V BELOWxSMALL VoHAH ",
     "WITH TWO DOTS ABOVEyHREE DOTS POINTING UPWARDS BELOWoDAL WITH TWO DOTS VERTICALLY BELOW AN",
     "D SMALL TAHxINVERTED SMALL V BELOWoREH WITH STROKEoSEEN WITH FOUR DOTS ABOVEoAIN WITH TWO ",
     "DOTS ABOVEyHREE DOTS POINTING DOWNWARDS ABOVEyWO DOTS VERTICALLY ABOVEoFEH WITH TWO DOTS B",
     "ELOWyHREE DOTS POINTING UPWARDS BELOWoKEHEH WITH DOT ABOVEzTHREE DOTS ABOVEzTHREE DOTS POI",
     "NTING UPWARDS BELOWoMEEM WITH DOT ABOVEzOT BELOWoNOON WITH TWO DOTS BELOWySMALL TAHzMALL V",
     "oLAM WITH BARoREH WITH TWO DOTS VERTICALLY ABOVExHAMZA ABOVEoSEEN WITH TWO DOTS VERTICALLY",
     " ABOVEoHAH WITH SMALL ARABIC LETTER TAH BELOWzALL ARABIC LETTER TAH AND TWO DOTSoSEEN WITH",
     " SMALL ARABIC LETTER TAH AND TWO DOTSoREH WITH SMALL ARABIC LETTER TAH AND TWO DOTSoHAH WI",
     "TH SMALL ARABIC LETTER TAH ABOVEoALEF WITH EXTENDED ARABIC-INDIC DIGIT TWO ABOVEzXTENDED A",
     "RABIC-INDIC DIGIT THREE ABOVEoFARSI YEH WITH EXTENDED ARABIC-INDIC DIGIT TWO ABOVEzITH EXT",
     "ENDED ARABIC-INDIC DIGIT THREE ABOVEzITH EXTENDED ARABIC-INDIC DIGIT FOUR BELOWoWAW WITH E",
     "XTENDED ARABIC-INDIC DIGIT TWO ABOVEzTENDED ARABIC-INDIC DIGIT THREE ABOVEoYEH BARREE WITH",
     " EXTENDED ARABIC-INDIC DIGIT TWO ABOVEzWITH EXTENDED ARABIC-INDIC DIGIT THREE ABOVEoHAH WI",
     "TH EXTENDED ARABIC-INDIC DIGIT FOUR BELOWoSEEN WITH EXTENDED ARABIC-INDIC DIGIT FOUR ABOVE",
     "yINVERTED VoKAF WITH TWO DOTS ABOVEaTHAANA LETTER HAAoSHAVIYANIoNOONUoRAAoBAAoLHAVIYANIoKA",
     "AFUoALIFUoVAAVUoMEEMUoFAAFUoDHAALUoTHAA"]),
    (0x078D,
    ["aTHAANA LETTER LAAMUoGAAFUpNAVIYANIoSEENUoDAVIYANIoZAVIYANIoTAVIYANIoYAAoPAVIYANIoJAVIYANI",
     "oCHAVIYANIoTTAAoHHAAoKHAAoTHAALUoZAAoSHEENUpAADHUoDAADHUoTOoZOoAINUoGHAINUoQAAFUoWAAVUhABA",
     "FILIiABAAFILIhIBIFILIhEEBEEFILIhUBUFILIhOOBOOFILIhEBEFILIiYBEYFILIhOBOFILIiABOAFILIhSUKUNh",
     "LETTER NAA"]),
    (0x07C0,
    ["aNKO DIGIT ZEROkONEkTWOlHREEkFOURlIVEkSIXlEVENkEIGHTkNINEeLETTER AlEElIlElUlOOmlDAGBASINNA",
     "lNlBAlPAlTAlJAlCHAlDAlRAmRAlSAlGBAlFAlKAlLAlNA WOLOSOlMAlNYAmAlHAlWAlYAlNYA WOLOSOlJONA JA",
     "qCHAqRAeCOMBINING SHORT HIGH TONEuLOW TONEuRISING TONEoLONG DESCENDING TONEtHIGH TONEtLOW ",
     "TONEtRISING TONEoNASALIZATION MARKoDOUBLE DOT ABOVEeHIGH TONE APOSTROPHEeLOW TONE APOSTROP",
     "HEeSYMBOL OO DENNENlGBAKURUNENeCOMMAeEXCLAMATION MARKeLAJANYALAN"]),
    (0x07FD,
    ["aNKO DANTAYALANfOROME SIGNeTAMAN SIGNaSAMARITAN LETTER ALAFrBITrGAMANrDALATrIYrBAArZENrITr",
     "TITrYUTrKAAFrLABATrMIMrNUNrSINGAATrINrFIrTSAADIYrQUFrRISHrSHANrTAAFkMARK INr-ALAFpOCCLUSIO",
     "NpDAGESHlODIFIER LETTER EPENTHETIC YUTlARK EPENTHETIC YUTkVOWEL SIGN LONG EvEvOVERLONG AAv",
     "LONG AAvAAvOVERLONG AvLONG AvAkMODIFIER LETTER SHORT AkVOWEL SIGN SHORT AvLONG UvUkMODIFIE",
     "R LETTER IkVOWEL SIGN LONG IvIvOvSUKUNkMARK NEQUDAA"]),
    (0x0830,
    ["aSAMARITAN PUNCTUATION NEQUDAAwAFSAAQxNGEDwBAUwATMAAUwSHIYYAALAAkABBREVIATION MARKkPUNCTUA",
     "TION MELODIC QITSAwZIQAAwQITSAwZAEFwTURUwARKAANUwSOF MASHFAATwANNAAU"]),
    (0x0840,
    ["aMANDAIC LETTER HALQApABqGqDqHpUSHENNApAZpITpATTqKSArqLqMqNqSpINpAPqSZqQqRqSHqTpDUSHENNApK",
     "ADpAINiAFFRICATION MARKiVOCALIZATION MARKiGEMINATION MARK"]),
    (0x085E,
    ["aMANDAIC PUNCTUATION"]),
    (0x0860,
    ["aSYRIAC LETTER MALAYALAM NGAyJAyNYAyTTAyNNAzNNAyBHAyRAyLLAzLLAySSA"]),
    (0x0870,
    ["aARABIC LETTER ALEF WITH ATTACHED FATHAzTTACHED TOP RIGHT FATHAyRIGHT MIDDLE STROKEyLEFT M",
     "IDDLE STROKEyATTACHED KASRAzTTACHED BOTTOM RIGHT KASRAzTTACHED ROUND DOT ABOVEzTTACHED RIG",
     "HT ROUND DOTzTTACHED LEFT ROUND DOTzTTACHED ROUND DOT BELOWyDOT ABOVEyATTACHED TOP RIGHT F",
     "ATHA AND DOT ABOVEyRIGHT MIDDLE STROKE AND DOT ABOVEyATTACHED BOTTOM RIGHT KASRA AND DOT A",
     "BOVEzTTACHED TOP RIGHT FATHA AND LEFT RINGyRIGHT MIDDLE STROKE AND LEFT RINGyATTACHED BOTT",
     "OM RIGHT KASRA AND LEFT RINGzTTACHED RIGHT HAMZAzTTACHED LEFT HAMZAhTATWEEL WITH OVERSTRUC",
     "K HAMZAzTRUCK WAWuTWO DOTS BELOWhLETTER THIN YEHhBASELINE ROUND DOThRAISED ROUND DOThLETTE",
     "R NOON WITH INVERTED SMALL VoHAH WITH INVERTED SMALL V BELOWoTAH WITH DOT BELOWxTHREE DOTS",
     " BELOWoKEHEH WITH TWO DOTS VERTICALLY BELOWhVERTICAL TAIL"]),
    (0x0890,
    ["aARABIC POUND MARK ABOVEiIASTRE MARK ABOVE"]),
    (0x0898,
    ["aARABIC SMALL HIGH WORD AL-JUZnLOW WORD ISHMAAMxMAALAwTASHEELhMADDA WAAJIBhSUPERSCRIPT ALE",
     "F MOKHASSAShDOUBLED MADDAhHALF MADDA OVER MADDAhLETTER BEH WITH SMALL V BELOWxHAMZA ABOVEo",
     "JEEM WITH TWO DOTS ABOVEoTAH WITH TWO DOTS ABOVEoFEH WITH DOT BELOW AND THREE DOTS ABOVEoQ",
     "AF WITH DOT BELOWoLAM WITH DOUBLE BARoMEEM WITH THREE DOTS ABOVEoYEH WITH TWO DOTS BELOW A",
     "ND HAMZA ABOVEzO DOTS BELOW AND DOT ABOVEoREH WITH LOOPoWAW WITH DOT WITHINoROHINGYA YEHoL",
     "OW ALEFoDAL WITH THREE DOTS BELOWoSAD WITH THREE DOTS BELOWoGAF WITH INVERTED STROKEoSTRAI",
     "GHT WAWoZAIN WITH INVERTED V ABOVEoAIN WITH THREE DOTS BELOWoKAF WITH DOT BELOWoQAF WITH D",
     "OT BELOW AND NO DOTS ABOVEoBEH WITH SMALL MEEM ABOVEoPEH WITH SMALL MEEM ABOVEoTEH WITH SM",
     "ALL TEH ABOVEoREH WITH SMALL NOON ABOVEoYEH WITH TWO DOTS BELOW AND SMALL NOON ABOVEoAFRIC",
     "AN FEHwQAFwNOONoPEH WITH SMALL VoTEH WITH SMALL VpTEH WITH SMALL VpCHEH WITH SMALL VoKEHEH",
     " WITH SMALL VoGHAIN WITH THREE DOTS ABOVEoAFRICAN QAF WITH THREE DOTS ABOVEoJEEM WITH THRE",
     "E DOTS ABOVEzHREE DOTS BELOWoLAM WITH SMALL ARABIC LETTER TAH ABOVEoGRAFhSMALL FARSI YEHnH",
     "IGH FARSI YEHsYEH BARREE WITH TWO DOTS BELOWsWORD SAHsZAHhLARGE ROUND DOT ABOVExBELOWhSUKU",
     "N BELOWhLARGE CIRCLE BELOWnROUND DOT INSIDE CIRCLE BELOWhSMALL LOW WAWnHIGH WORD AR-RUBsSA",
     "DsAINsQAF"]),
    (0x08D8,
    ["aARABIC SMALL HIGH NOON WITH KASRAnLOW NOON WITH KASRAnHIGH WORD ATH-THALATHAyS-SAJDAyN-NI",
     "SFxSAKTAxQIFxWAQFAsFOOTNOTE MARKERsSIGN SAFHAhDISPUTED END OF AYAHhTURNED DAMMA BELOWhCURL",
     "Y FATHAnDAMMAnKASRAnFATHATANnDAMMATANnKASRATANhTONE ONE DOT ABOVEmTWO DOTS ABOVEmLOOP ABOV",
     "EmONE DOT BELOWmTWO DOTS BELOWmLOOP BELOWhOPEN FATHATANmDAMMATANmKASRATANhSMALL HIGH WAWhF",
     "ATHA WITH RINGsDOT ABOVEhKASRA WITH DOT BELOWhLEFT ARROWHEAD ABOVEhRIGHT ARROWHEAD ABOVEhL",
     "EFT ARROWHEAD BELOWhRIGHT ARROWHEAD BELOWhDOUBLE RIGHT ARROWHEAD ABOVEzHEAD ABOVE WITH DOT",
     "hRIGHT ARROWHEAD ABOVE WITH DOThDAMMA WITH DOThMARK SIDEWAYS NOON GHUNNAaDEVANAGARI SIGN I",
     "NVERTED CANDRABINDUqCANDRABINDUqANUSVARAqVISARGAlLETTER SHORT AsAtAsItIsUtUsVOCALIC Rz LsC",
     "ANDRA EsSHORT EsEsAIsCANDRA OsSHORT OsOsAUsKAtHAsGA"]),
    (0x0918,
    ["aDEVANAGARI LETTER GHAsNGAsCAtHAsJAtHAsNYAsTTAuHAsDDAuHAsNNAsTAtHAsDAtHAsNAtNNAsPAtHAsBAtH",
     "AsMAsYAsRAtRAsLAtLAuLAsVAsSHAtSAtAsHAlVOWEL SIGN OExOElSIGN NUKTAqAVAGRAHAlVOWEL SIGN AAwI",
     "xIwUxUwVOCALIC RzALIC RRwCANDRA EwSHORT EwEwAIwCANDRA OwSHORT OwOwAUlSIGN VIRAMAlVOWEL SIG",
     "N PRISHTHAMATRA EwAWlOMlSTRESS SIGN UDATTAxANUDATTAlGRAVE ACCENTlACUTE ACCENTlVOWEL SIGN C",
     "ANDRA LONG EwUExUE"]),
    (0x0958,
    ["aDEVANAGARI LETTER QAsKHHAsGHHAsZAsDDDHAsRHAsFAsYYAsVOCALIC RRz LLlVOWEL SIGN VOCALIC LzAL",
     "IC LLlDANDAmOUBLE DANDAmIGIT ZEROrONErTWOsHREErFOURsIVErSIXsEVENrEIGHTrNINElABBREVIATION S",
     "IGNlSIGN HIGH SPACING DOTlLETTER CANDRA AsOEtOEsAWsUEtUEsMARWARI DDAsZHAsHEAVY YAsGGAsJJAs",
     "GLOTTAL STOPsDDDAsBBAaBENGALI ANJIiSIGN CANDRABINDUnANUSVARAnVISARGA"]),
    (0x0985,
    ["aBENGALI LETTER AqApIqIpUqUpVOCALIC RxL"]),
    (0x098F,
    ["aBENGALI LETTER EpAI"]),
    (0x0993,
    ["aBENGALI LETTER OpAUpKAqHApGAqHApNGApCAqHApJAqHApNYApTTArHApDDArHApNNApTAqHApDAqHApNA"]),
    (0x09AA,
    ["aBENGALI LETTER PAqHApBAqHApMApYApRA"]),
    (0x09B2,
    ["aBENGALI LETTER LA"]),
    (0x09B6,
    ["aBENGALI LETTER SHAqSAqApHA"]),
    (0x09BC,
    ["aBENGALI SIGN NUKTAnAVAGRAHAiVOWEL SIGN AAtIuItUuUtVOCALIC RzC RR"]),
    (0x09C7,
    ["aBENGALI VOWEL SIGN EtAI"]),
    (0x09CB,
    ["aBENGALI VOWEL SIGN OtAUiSIGN VIRAMAiLETTER KHANDA TA"]),
    (0x09D7,
    ["aBENGALI AU LENGTH MARK"]),
    (0x09DC,
    ["aBENGALI LETTER RRAqHA"]),
    (0x09DF,
    ["aBENGALI LETTER YYApVOCALIC RRxLLiVOWEL SIGN VOCALIC LzC LL"]),
    (0x09E6,
    ["aBENGALI DIGIT ZEROoONEoTWOpHREEoFOURpIVEoSIXpEVENoEIGHToNINEiLETTER RA WITH MIDDLE DIAGON",
     "ALxLOWER DIAGONALiRUPEE MARKoSIGNiCURRENCY NUMERATOR ONEzR TWOzR THREEzR FOURzR ONE LESS T",
     "HAN THE DENOMINATORrDENOMINATOR SIXTEENiISSHARiGANDA MARKiLETTER VEDIC ANUSVARAiABBREVIATI",
     "ON SIGNiSANDHI MARK"]),
    (0x0A01,
    ["aGURMUKHI SIGN ADAK BINDIoBINDIoVISARGA"]),
    (0x0A05,
    ["aGURMUKHI LETTER ArAqIrIqUrU"]),
    (0x0A0F,
    ["aGURMUKHI LETTER EEqAI"]),
    (0x0A13,
    ["aGURMUKHI LETTER OOqAUqKArHAqGArHAqNGAqCArHAqJArHAqNYAqTTAsHAqDDAsHAqNNAqTArHAqDArHAqNA"]),
    (0x0A2A,
    ["aGURMUKHI LETTER PArHAqBArHAqMAqYAqRA"]),
    (0x0A32,
    ["aGURMUKHI LETTER LArLA"]),
    (0x0A35,
    ["aGURMUKHI LETTER VAqSHA"]),
    (0x0A38,
    ["aGURMUKHI LETTER SAqHA"]),
    (0x0A3C,
    ["aGURMUKHI SIGN NUKTA"]),
    (0x0A3E,
    ["aGURMUKHI VOWEL SIGN AAuIvIuUvU"]),
    (0x0A47,
    ["aGURMUKHI VOWEL SIGN EEuAI"]),
    (0x0A4B,
    ["aGURMUKHI VOWEL SIGN OOuAUjSIGN VIRAMA"]),
    (0x0A51,
    ["aGURMUKHI SIGN UDAAT"]),
    (0x0A59,
    ["aGURMUKHI LETTER KHHAqGHHAqZAqRRA"]),
    (0x0A5E,
    ["aGURMUKHI LETTER FA"]),
    (0x0A66,
    ["aGURMUKHI DIGIT ZEROpONEpTWOqHREEpFOURqIVEpSIXqEVENpEIGHTpNINEjTIPPIjADDAKjIRIjURAjEK ONKA",
     "RjSIGN YAKASHjABBREVIATION SIGN"]),
    (0x0A81,
    ["aGUJARATI SIGN CANDRABINDUoANUSVARAoVISARGA"]),
    (0x0A85,
    ["aGUJARATI LETTER ArAqIrIqUrUqVOCALIC RyLjVOWEL CANDRA E"]),
    (0x0A8F,
    ["aGUJARATI LETTER EqAIjVOWEL CANDRA O"]),
    (0x0A93,
    ["aGUJARATI LETTER OqAUqKArHAqGArHAqNGAqCArHAqJArHAqNYAqTTAsHAqDDAsHAqNNAqTArHAqDArHAqNA"]),
    (0x0AAA,
    ["aGUJARATI LETTER PArHAqBArHAqMAqYAqRA"]),
    (0x0AB2,
    ["aGUJARATI LETTER LArLA"]),
    (0x0AB5,
    ["aGUJARATI LETTER VAqSHArSArAqHA"]),
    (0x0ABC,
    ["aGUJARATI SIGN NUKTAoAVAGRAHAjVOWEL SIGN AAuIvIuUvUuVOCALIC RzIC RRuCANDRA E"]),
    (0x0AC7,
    ["aGUJARATI VOWEL SIGN EuAIuCANDRA O"]),
    (0x0ACB,
    ["aGUJARATI VOWEL SIGN OuAUjSIGN VIRAMA"]),
    (0x0AD0,
    ["aGUJARATI OM"]),
    (0x0AE0,
    ["aGUJARATI LETTER VOCALIC RRyLLjVOWEL SIGN VOCALIC LzIC LL"]),
    (0x0AE6,
    ["aGUJARATI DIGIT ZEROpONEpTWOqHREEpFOURqIVEpSIXqEVENpEIGHTpNINEjABBREVIATION SIGNjRUPEE SIG",
     "N"]),
    (0x0AF9,
    ["aGUJARATI LETTER ZHAjSIGN SUKUNpHADDAoMADDAHoTHREE-DOT NUKTA ABOVEoCIRCLE NUKTA ABOVEoTWO-",
     "CIRCLE NUKTA ABOVE"]),
    (0x0B01,
    ["aORIYA SIGN CANDRABINDUlANUSVARAlVISARGA"]),
    (0x0B05,
    ["aORIYA LETTER AoAnIoInUoUnVOCALIC RvL"]),
    (0x0B0F,
    ["aORIYA LETTER EnAI"]),
    (0x0B13,
    ["aORIYA LETTER OnAUnKAoHAnGAoHAnNGAnCAoHAnJAoHAnNYAnTTApHAnDDApHAnNNAnTAoHAnDAoHAnNA"]),
    (0x0B2A,
    ["aORIYA LETTER PAoHAnBAoHAnMAnYAnRA"]),
    (0x0B32,
    ["aORIYA LETTER LAoLA"]),
    (0x0B35,
    ["aORIYA LETTER VAnSHAoSAoAnHA"]),
    (0x0B3C,
    ["aORIYA SIGN NUKTAlAVAGRAHAgVOWEL SIGN AArIsIrUsUrVOCALIC RzRR"]),
    (0x0B47,
    ["aORIYA VOWEL SIGN ErAI"]),
    (0x0B4B,
    ["aORIYA VOWEL SIGN OrAUgSIGN VIRAMA"]),
    (0x0B55,
    ["aORIYA SIGN OVERLINEgAI LENGTH MARKhU LENGTH MARK"]),
    (0x0B5C,
    ["aORIYA LETTER RRAoHA"]),
    (0x0B5F,
    ["aORIYA LETTER YYAnVOCALIC RRvLLgVOWEL SIGN VOCALIC LzLL"]),
    (0x0B66,
    ["aORIYA DIGIT ZEROmONEmTWOnHREEmFOURnIVEmSIXnEVENmEIGHTmNINEgISSHARgLETTER WAgFRACTION ONE ",
     "QUARTERtHALFpTHREE QUARTERSpONE SIXTEENTHtEIGHTHpTHREE SIXTEENTHS"]),
    (0x0B82,
    ["aTAMIL SIGN ANUSVARAlVISARGA"]),
    (0x0B85,
    ["aTAMIL LETTER AoAnIoInUoU"]),
    (0x0B8E,
    ["aTAMIL LETTER EoEnAI"]),
    (0x0B92,
    ["aTAMIL LETTER OoOnAUnKA"]),
    (0x0B99,
    ["aTAMIL LETTER NGAnCA"]),
    (0x0B9C,
    ["aTAMIL LETTER JA"]),
    (0x0B9E,
    ["aTAMIL LETTER NYAnTTA"]),
    (0x0BA3,
    ["aTAMIL LETTER NNAnTA"]),
    (0x0BA8,
    ["aTAMIL LETTER NAoNNAnPA"]),
    (0x0BAE,
    ["aTAMIL LETTER MAnYAnRAoRAnLAoLApLAnVAnSHAoSAoAnHA"]),
    (0x0BBE,
    ["aTAMIL VOWEL SIGN AArIsIrUsU"]),
    (0x0BC6,
    ["aTAMIL VOWEL SIGN EsErAI"]),
    (0x0BCA,
    ["aTAMIL VOWEL SIGN OsOrAUgSIGN VIRAMA"]),
    (0x0BD0,
    ["aTAMIL OM"]),
    (0x0BD7,
    ["aTAMIL AU LENGTH MARK"]),
    (0x0BE6,
    ["aTAMIL DIGIT ZEROmONEmTWOnHREEmFOURnIVEmSIXnEVENmEIGHTmNINEgNUMBER TENnONE HUNDREDrTHOUSAN",
     "DgDAY SIGNgMONTH SIGNgYEAR SIGNgDEBIT SIGNgCREDIT SIGNgAS ABOVE SIGNgRUPEE SIGNgNUMBER SIG",
     "N"]),
    (0x0C00,
    ["aTELUGU SIGN COMBINING CANDRABINDU ABOVEnANDRABINDUmANUSVARAmVISARGAmCOMBINING ANUSVARA AB",
     "OVEhLETTER ApAoIpIoUpUoVOCALIC RwL"]),
    (0x0C0E,
    ["aTELUGU LETTER EpEoAI"]),
    (0x0C12,
    ["aTELUGU LETTER OpOoAUoKApHAoGApHAoNGAoCApHAoJApHAoNYAoTTAqHAoDDAqHAoNNAoTApHAoDApHAoNA"]),
    (0x0C2A,
    ["aTELUGU LETTER PApHAoBApHAoMAoYAoRApRAoLApLAqLAoVAoSHApSApAoHA"]),
    (0x0C3C,
    ["aTELUGU SIGN NUKTAmAVAGRAHAhVOWEL SIGN AAsItIsUtUsVOCALIC Rz RR"]),
    (0x0C46,
    ["aTELUGU VOWEL SIGN EtEsAI"]),
    (0x0C4A,
    ["aTELUGU VOWEL SIGN OtOsAUhSIGN VIRAMA"]),
    (0x0C55,
    ["aTELUGU LENGTH MARKhAI LENGTH MARK"]),
    (0x0C58,
    ["aTELUGU LETTER TSAoDZAoRRRA"]),
    (0x0C5D,
    ["aTELUGU LETTER NAKAARA POLLU"]),
    (0x0C60,
    ["aTELUGU LETTER VOCALIC RRwLLhVOWEL SIGN VOCALIC Lz LL"]),
    (0x0C66,
    ["aTELUGU DIGIT ZEROnONEnTWOoHREEnFOURoIVEnSIXoEVENnEIGHTnNINE"]),
    (0x0C77,
    ["aTELUGU SIGN SIDDHAMhFRACTION DIGIT ZERO FOR ODD POWERS OF FOURwONE FOR ODD POWERS OF FOUR",
     "wTWO FOR ODD POWERS OF FOURxHREE FOR ODD POWERS OF FOURwONE FOR EVEN POWERS OF FOURwTWO FO",
     "R EVEN POWERS OF FOURxHREE FOR EVEN POWERS OF FOURhSIGN TUUMUaKANNADA SIGN SPACING CANDRAB",
     "INDUnCANDRABINDUnANUSVARAnVISARGAnSIDDHAMiLETTER AqApIqIpUqUpVOCALIC RxL"]),
    (0x0C8E,
    ["aKANNADA LETTER EqEpAI"]),
    (0x0C92,
    ["aKANNADA LETTER OqOpAUpKAqHApGAqHApNGApCAqHApJAqHApNYApTTArHApDDArHApNNApTAqHApDAqHApNA"]),
    (0x0CAA,
    ["aKANNADA LETTER PAqHApBAqHApMApYApRAqRApLAqLA"]),
    (0x0CB5,
    ["aKANNADA LETTER VApSHAqSAqApHA"]),
    (0x0CBC,
    ["aKANNADA SIGN NUKTAnAVAGRAHAiVOWEL SIGN AAtIuItUuUtVOCALIC RzC RR"]),
    (0x0CC6,
    ["aKANNADA VOWEL SIGN EuEtAI"]),
    (0x0CCA,
    ["aKANNADA VOWEL SIGN OuOtAUiSIGN VIRAMA"]),
    (0x0CD5,
    ["aKANNADA LENGTH MARKiAI LENGTH MARK"]),
    (0x0CDD,
    ["aKANNADA LETTER NAKAARA POLLUpFA"]),
    (0x0CE0,
    ["aKANNADA LETTER VOCALIC RRxLLiVOWEL SIGN VOCALIC LzC LL"]),
    (0x0CE6,
    ["aKANNADA DIGIT ZEROoONEoTWOpHREEoFOURpIVEoSIXpEVENoEIGHToNINE"]),
    (0x0CF1,
    ["aKANNADA SIGN JIHVAMULIYAnUPADHMANIYA"]),
    (0x0D00,
    ["aMALAYALAM SIGN COMBINING ANUSVARA ABOVEqANDRABINDUpANUSVARApVISARGAkLETTER VEDIC ANUSVARA",
     "rAsArIsIrUsUrVOCALIC RzL"]),
    (0x0D0E,
    ["aMALAYALAM LETTER EsErAI"]),
    (0x0D12,
    ["aMALAYALAM LETTER OsOrAUrKAsHArGAsHArNGArCAsHArJAsHArNYArTTAtHArDDAtHArNNArTAsHArDAsHArNAs",
     "NNArPAsHArBAsHArMArYArRAsRArLAsLAtLArVArSHAsSAsArHArTTTAkSIGN VERTICAL BAR VIRAMApCIRCULAR",
     " VIRAMApAVAGRAHAkVOWEL SIGN AAvIwIvUwUvVOCALIC RzLIC RR"]),
    (0x0D46,
    ["aMALAYALAM VOWEL SIGN EwEvAI"]),
    (0x0D4A,
    ["aMALAYALAM VOWEL SIGN OwOvAUkSIGN VIRAMAkLETTER DOT REPHkSIGN PARA"]),
    (0x0D54,
    ["aMALAYALAM LETTER CHILLU MyYyLLLkAU LENGTH MARKkFRACTION ONE ONE-HUNDRED-AND-SIXTIETHxFORT",
     "IETHtTHREE EIGHTIETHStONE TWENTIETHyENTHtTHREE TWENTIETHStONE FIFTHkLETTER ARCHAIC IIrVOCA",
     "LIC RRzLLkVOWEL SIGN VOCALIC LzLIC LL"]),
    (0x0D66,
    ["aMALAYALAM DIGIT ZEROqONEqTWOrHREEqFOURrIVEqSIXrEVENqEIGHTqNINEkNUMBER TENrONE HUNDREDvTHO",
     "USANDkFRACTION ONE QUARTERxHALFtTHREE QUARTERStONE SIXTEENTHxEIGHTHtTHREE SIXTEENTHSkDATE ",
     "MARKkLETTER CHILLU NNzyRRyLzLyK"]),
    (0x0D81,
    ["aSINHALA SIGN CANDRABINDUnANUSVARAYAnVISARGAYA"]),
    (0x0D85,
    ["aSINHALA LETTER AYANNAqAYANNAqEYANNArEYANNApIYANNAqIYANNApUYANNAqUYANNApIRUYANNAsUYANNAqLU",
     "YANNAsUYANNApEYANNAqEYANNApAIYANNApOYANNAqOYANNApAUYANNA"]),
    (0x0D9A,
    ["aSINHALA LETTER ALPAPRAANA KAYANNApMAHAAPRAANA KAYANNApALPAPRAANA GAYANNApMAHAAPRAANA GAYA",
     "NNApKANTAJA NAASIKYAYApSANYAKA GAYANNApALPAPRAANA CAYANNApMAHAAPRAANA CAYANNApALPAPRAANA J",
     "AYANNApMAHAAPRAANA JAYANNApTAALUJA NAASIKYAYAxSANYOOGA NAAKSIKYAYApSANYAKA JAYANNApALPAPRA",
     "ANA TTAYANNApMAHAAPRAANA TTAYANNApALPAPRAANA DDAYANNApMAHAAPRAANA DDAYANNAqUURDHAJA NAYANN",
     "ApSANYAKA DDAYANNApALPAPRAANA TAYANNApMAHAAPRAANA TAYANNApALPAPRAANA DAYANNApMAHAAPRAANA D",
     "AYANNApDANTAJA NAYANNA"]),
    (0x0DB3,
    ["aSINHALA LETTER SANYAKA DAYANNApALPAPRAANA PAYANNApMAHAAPRAANA PAYANNApALPAPRAANA BAYANNAp",
     "MAHAAPRAANA BAYANNArYANNApAMBA BAYANNApYAYANNApRAYANNA"]),
    (0x0DBD,
    ["aSINHALA LETTER DANTAJA LAYANNA"]),
    (0x0DC0,
    ["aSINHALA LETTER VAYANNApTAALUJA SAYANNApMUURDHAJA SAYANNApDANTAJA SAYANNApHAYANNApMUURDHAJ",
     "A LAYANNApFAYANNA"]),
    (0x0DCA,
    ["aSINHALA SIGN AL-LAKUNA"]),
    (0x0DCF,
    ["aSINHALA VOWEL SIGN AELA-PILLAtKETTI AEDA-PILLAtDIGA AEDA-PILLAtKETTI IS-PILLAtDIGA IS-PIL",
     "LAtKETTI PAA-PILLA"]),
    (0x0DD6,
    ["aSINHALA VOWEL SIGN DIGA PAA-PILLA"]),
    (0x0DD8,
    ["aSINHALA VOWEL SIGN GAETTA-PILLAtKOMBUVAtDIGA KOMBUVAtKOMBU DEKAyVA HAA AELA-PILLAzA HAA D",
     "IGA AELA-PILLAzA HAA GAYANUKITTAtGAYANUKITTA"]),
    (0x0DE6,
    ["aSINHALA LITH DIGIT ZEROtONEtTWOuHREEtFOURuIVEtSIXuEVENtEIGHTtNINE"]),
    (0x0DF2,
    ["aSINHALA VOWEL SIGN DIGA GAETTA-PILLAzAYANUKITTAiPUNCTUATION KUNDDALIYA"]),
    (0x0E01,
    ["aTHAI CHARACTER KO KAIqHO KHAIvUATvWAIvONtRAKHANGpNGO NGUpCHO CHANvINGvANGpSO SOpCHO CHOEp",
     "YO YINGpDO CHADApTO PATAKqHO THANtNANGMONTHOtPHUTHAOpNO NENpDO DEKpTO TAOqHO THUNGvAHANvON",
     "GpNO NUpBO BAIMAIpPO PLAqHO PHUNGpFO FApPHO PHANpFO FANpPHO SAMPHAOpMO MApYO YAKpRO RUAqUp",
     "LO LINGqUpWO WAENpSO SALAsRUSIsSUApHO HIPpLO CHULApO ANGpHO NOKHUKpPAIYANNOIpSARA ApMAI HA",
     "N-AKATpSARA AAvMuIvIuUEwEvvUpPHINTHU"]),
    (0x0E3F,
    ["aTHAI CURRENCY SYMBOL BAHTgHARACTER SARA EuAEuOuAI MAIMUANzIMALAIpLAKKHANGYAOpMAIYAMOKsTAI",
     "KHUs EKtTHOuRItCHATTAWApTHANTHAKHATpNIKHAHITpYAMAKKANpFONGMANfDIGIT ZEROlONElTWOmHREElFOUR",
     "mIVElSIXmEVENlEIGHTlNINEfCHARACTER ANGKHANKHUpKHOMUT"]),
    (0x0E81,
    ["aLAO LETTER KOmHO SUNG"]),
    (0x0E84,
    ["aLAO LETTER KHO TAM"]),
    (0x0E86,
    ["aLAO LETTER PALI GHAlNGOlCOlPALI CHAlSO TAM"]),
    (0x0E8C,
    ["aLAO LETTER PALI JHAlNYOlPALI NYAqTTAsHAqDDAsHAqNNAlDOlTOmHO SUNGpTAMlPALI DHAlNOlBOlPOmHO",
     " SUNGlFO TAMlPHO TAMlFO SUNGlPALI BHAlMOlYOlLO LING"]),
    (0x0EA5,
    ["aLAO LETTER LO LOOT"]),
    (0x0EA7,
    ["aLAO LETTER WOlSANSKRIT SHAvSAmO SUNGlHO SUNGlPALI LLAlOlHO TAMeELLIPSISeVOWEL SIGN ApMAI ",
     "KANpAAqMpIqIpYqYpUqUeSIGN PALI VIRAMAeVOWEL SIGN MAI KONeSEMIVOWEL SIGN LOtNYO"]),
    (0x0EC0,
    ["aLAO VOWEL SIGN EqIpOpAYqI"]),
    (0x0EC6,
    ["aLAO KO LA"]),
    (0x0EC8,
    ["aLAO TONE MAI EKnTHOoInCATAWAeCANCELLATION MARKeNIGGAHITA"]),
    (0x0ED0,
    ["aLAO DIGIT ZEROkONEkTWOlHREEkFOURlIVEkSIXlEVENkEIGHTkNINE"]),
    (0x0EDC,
    ["aLAO HO NOhMOeLETTER KHMU GOqNYO"]),
    (0x0F00,
    ["aTIBETAN SYLLABLE OMiMARK GTER YIG MGO TRUNCATED Az -UM RNAM BCAD MAz -UM GTER TSHEG MAnIN",
     "ITIAL YIG MGO MDUN MAnCLOSING YIG MGO SGAB MAoARET YIG MGO PHUR SHAD MAnYIG MGO TSHEG SHAD",
     " MAnSBRUL SHADnBSKUR YIG MGOoKA- SHOG YIG MGOnINTERSYLLABIC TSHEGnDELIMITER TSHEG BSTARnSH",
     "ADnNYIS SHADnTSHEG SHADnNYIS TSHEG SHADnRIN CHEN SPUNGS SHADoGYA GRAM SHADnCARET -DZUD RTA",
     "GS ME LONG CANnGTER TSHEGiLOGOTYPE SIGN CHAD RTAGSwLHAG RTAGSiASTROLOGICAL SIGN SGRA GCAN ",
     "-CHAR RTAGSz -KHYUD PAz SDONG TSHUGSiSIGN RDEL DKAR GCIGyNYISySUMsNAG GCIGxNYISsDKAR RDEL ",
     "NAGiDIGIT ZEROoONEoTWOpHREEoFOURpIVEoSIXpEVENoEIGHToNINEoHALF ONEtTWOuHREEtFOURuIVEtSIXuEV",
     "ENtEIGHTtNINEtZEROiMARK BSDUS RTAGSnNGAS BZUNG NYI ZLAnCARET -DZUD RTAGS BZHI MIG CANnNGAS",
     " BZUNG SGOR RTAGSnCHE MGOnTSA -PHRUnGUG RTAGS GYONzASnANG KHANG GYONzASiSIGN YAR TSHESnMAR",
     " TSHES"]),
    (0x0F40,
    ["aTIBETAN LETTER KAqHApGAqHApNGApCAqHApJA"]),
    (0x0F49,
    ["aTIBETAN LETTER NYApTTArHApDDArHApNNApTAqHApDAqHApNApPAqHApBAqHApMApTSArHApDZArHApWApZHAqA",
     "p-ApYApRApLApSHAqSAqApHApApKSSApFIXED-FORM RApKKApRRA"]),
    (0x0F71,
    ["aTIBETAN VOWEL SIGN AAtIuItUuUtVOCALIC RzC RRzC LzC LLtEuEtOuOiSIGN RJES SU NGA ROoNAM BCA",
     "DiVOWEL SIGN REVERSED IzED IIiSIGN NYI ZLA NAA DAnSNA LDANiMARK HALANTAnPALUTAiSIGN LCI RT",
     "AGSnYANG RTAGSnLCE TSA CANnMCHU CANnGRU CAN RGYINGSrMED RGYINGSnINVERTED MCHU CANjUBJOINED",
     " SIGN LCE TSA CANxMCHU CANxINVERTED MCHU CANsLETTER KAzKHAzGAzGHAzNGAzCAzCHAzJA"]),
    (0x0F99,
    ["aTIBETAN SUBJOINED LETTER NYAzTTAzTTHAzDDAzDDHAzNNAzTAzTHAzDAzDHAzNAzPAzPHAzBAzBHAzMAzTSAz",
     "TSHAzDZAzDZHAzWAzZHAzZAz-AzYAzRAzLAzSHAzSSAzSAzHAzAzKSSAzFIXED-FORM WAzFIXED-FORM YAzFIXED",
     "-FORM RA"]),
    (0x0FBE,
    ["aTIBETAN KU RU KHAr BZHI MIG CANiCANTILLATION SIGN HEAVY BEATz LIGHT BEATz CANG TE-Uz SBUB",
     " -CHALiSYMBOL DRIL BUpRDO RJEpPADMA GDANpRDO RJE RGYA GRAMpPHUR PApNOR BUv NYIS -KHYILwGSU",
     "M -KHYILwBZHI -KHYIL"]),
    (0x0FCE,
    ["aTIBETAN SIGN RDEL NAG RDEL DKARwGSUMiMARK BSKA- SHOG GI MGO RGYANnMNYAM YIG GI MGO RGYANn",
     "NYIS TSHEGnINITIAL BRDA RNYING YIG MGO MDUN MAnCLOSING BRDA RNYING YIG MGO SGAB MAaRIGHT-F",
     "ACING SVASTI SIGNaLEFT-FACING SVASTI SIGNaRIGHT-FACING SVASTI SIGN WITH DOTSaLEFT-FACING S",
     "VASTI SIGN WITH DOTSaTIBETAN MARK LEADING MCHAN RTAGSnTRAILING MCHAN RTAGS"])]

end MockApi.Text
