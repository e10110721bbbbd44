/-!
# Names of characters: symbols

The format of the table is told in `AwkEdit.Text.CharNames.Lookup`.
-/

namespace AwkEdit.Text

/-- The names of punctuation, symbols and the signs of East Asia, from U+2000 to U+9FFF. -/
def symbolsNames : String := "
>2000;aEN QUAD;aEM QUAD;aEN SPACE;aEM SPACE;aTHREE-PER-EM SPACE;aFOUR-PER-EM SPACE;aSIX-PER-EM SPACE;aFIGURE SPACE
aPUNCTUATION SPACE;aTHIN SPACE;aHAIR SPACE;aZERO WIDTH SPACE;cNON-JOINER;cJOINER;aLEFT-TO-RIGHT MARK;aRIGHT-TO-LEFT MARK;aHYPHEN
aNON-BREAKING HYPHEN;aFIGURE DASH;aEN DASH;aEM DASH;aHORIZONTAL BAR;aDOUBLE VERTICAL LINE;bLOW LINE;aLEFT SINGLE QUOTATION MARK
aRIGHT SINGLE QUOTATION MARK;aSINGLE LOW-9 QUOTATION MARK;bHIGH-REVERSED-9 QUOTATION MARK;aLEFT DOUBLE QUOTATION MARK
aRIGHT DOUBLE QUOTATION MARK;aDOUBLE LOW-9 QUOTATION MARK;bHIGH-REVERSED-9 QUOTATION MARK;aDAGGER;aDOUBLE DAGGER;aBULLET
aTRIANGULAR BULLET;aONE DOT LEADER;aTWO DOT LEADER;aHORIZONTAL ELLIPSIS;aHYPHENATION POINT;aLINE SEPARATOR;aPARAGRAPH SEPARATOR
aLEFT-TO-RIGHT EMBEDDING;aRIGHT-TO-LEFT EMBEDDING;aPOP DIRECTIONAL FORMATTING;aLEFT-TO-RIGHT OVERRIDE;aRIGHT-TO-LEFT OVERRIDE
aNARROW NO-BREAK SPACE;aPER MILLE SIGN;bTEN THOUSAND SIGN;aPRIME;aDOUBLE PRIME;aTRIPLE PRIME;aREVERSED PRIME;bDOUBLE PRIME
bTRIPLE PRIME;aCARET;aSINGLE LEFT-POINTING ANGLE QUOTATION MARK;bRIGHT-POINTING ANGLE QUOTATION MARK;aREFERENCE MARK
aDOUBLE EXCLAMATION MARK;aINTERROBANG;aOVERLINE;aUNDERTIE;aCHARACTER TIE;aCARET INSERTION POINT;aASTERISM;aHYPHEN BULLET
aFRACTION SLASH;aLEFT SQUARE BRACKET WITH QUILL;aRIGHT SQUARE BRACKET WITH QUILL;aDOUBLE QUESTION MARK
aQUESTION EXCLAMATION MARK;aEXCLAMATION QUESTION MARK;aTIRONIAN SIGN ET;aREVERSED PILCROW SIGN;aBLACK LEFTWARDS BULLET
bRIGHTWARDS BULLET;aLOW ASTERISK;aREVERSED SEMICOLON;aCLOSE UP;aTWO ASTERISKS ALIGNED VERTICALLY;aCOMMERCIAL MINUS SIGN
aSWUNG DASH;aINVERTED UNDERTIE;aFLOWER PUNCTUATION MARK;aTHREE DOT PUNCTUATION;aQUADRUPLE PRIME;aFOUR DOT PUNCTUATION
aFIVE DOT PUNCTUATION;aTWO DOT PUNCTUATION;aFOUR DOT MARK;aDOTTED CROSS;aTRICOLON;aVERTICAL FOUR DOTS;aMEDIUM MATHEMATICAL SPACE
aWORD JOINER;aFUNCTION APPLICATION;aINVISIBLE TIMES;bSEPARATOR;bPLUS;>2066;aLEFT-TO-RIGHT ISOLATE;aRIGHT-TO-LEFT ISOLATE
aFIRST STRONG ISOLATE;aPOP DIRECTIONAL ISOLATE;aINHIBIT SYMMETRIC SWAPPING;aACTIVATE SYMMETRIC SWAPPING
aINHIBIT ARABIC FORM SHAPING;aACTIVATE ARABIC FORM SHAPING;aNATIONAL DIGIT SHAPES;aNOMINAL DIGIT SHAPES;aSUPERSCRIPT ZERO
bLATIN SMALL LETTER I;>2074;bFOUR;bFIVE;bSIX;bSEVEN;bEIGHT;bNINE;bPLUS SIGN;bMINUS;bEQUALS SIGN;bLEFT PARENTHESIS
bRIGHT PARENTHESIS;bLATIN SMALL LETTER N;aSUBSCRIPT ZERO;bONE;bTWO;bTHREE;bFOUR;bFIVE;bSIX;bSEVEN;bEIGHT;bNINE;bPLUS SIGN;bMINUS
bEQUALS SIGN;bLEFT PARENTHESIS;bRIGHT PARENTHESIS;>2090;aLATIN SUBSCRIPT SMALL LETTER A;eE;eO;eX;eSCHWA;eH;eK;eL;eM;eN;eP;eS;eT
>20A0;aEURO-CURRENCY SIGN;aCOLON SIGN;aCRUZEIRO SIGN;aFRENCH FRANC SIGN;aLIRA SIGN;aMILL SIGN;aNAIRA SIGN;aPESETA SIGN
aRUPEE SIGN;aWON SIGN;aNEW SHEQEL SIGN;aDONG SIGN;aEURO SIGN;aKIP SIGN;aTUGRIK SIGN;aDRACHMA SIGN;aGERMAN PENNY SIGN;aPESO SIGN
aGUARANI SIGN;aAUSTRAL SIGN;aHRYVNIA SIGN;aCEDI SIGN;aLIVRE TOURNOIS SIGN;aSPESMILO SIGN;aTENGE SIGN;aINDIAN RUPEE SIGN
aTURKISH LIRA SIGN;aNORDIC MARK SIGN;aMANAT SIGN;aRUBLE SIGN;aLARI SIGN;aBITCOIN SIGN;aSOM SIGN;>20D0
aCOMBINING LEFT HARPOON ABOVE;bRIGHT HARPOON ABOVE;bLONG VERTICAL LINE OVERLAY;bSHORT VERTICAL LINE OVERLAY
bANTICLOCKWISE ARROW ABOVE;bCLOCKWISE ARROW ABOVE;bLEFT ARROW ABOVE;bRIGHT ARROW ABOVE;bRING OVERLAY;bCLOCKWISE RING OVERLAY
bANTICLOCKWISE RING OVERLAY;bTHREE DOTS ABOVE;bFOUR DOTS ABOVE;bENCLOSING CIRCLE;cSQUARE;cDIAMOND;cCIRCLE BACKSLASH
bLEFT RIGHT ARROW ABOVE;bENCLOSING SCREEN;cKEYCAP;cUPWARD POINTING TRIANGLE;bREVERSE SOLIDUS OVERLAY
bDOUBLE VERTICAL STROKE OVERLAY;bANNUITY SYMBOL;bTRIPLE UNDERDOT;bWIDE BRIDGE ABOVE;bLEFTWARDS ARROW OVERLAY
bLONG DOUBLE SOLIDUS OVERLAY;bRIGHTWARDS HARPOON WITH BARB DOWNWARDS;bLEFTWARDS HARPOON WITH BARB DOWNWARDS;bLEFT ARROW BELOW
bRIGHT ARROW BELOW;bASTERISK ABOVE;>2100;aACCOUNT OF;aADDRESSED TO THE SUBJECT;aDOUBLE-STRUCK CAPITAL C;aDEGREE CELSIUS
aCENTRE LINE SYMBOL;aCARE OF;aCADA UNA;aEULER CONSTANT;aSCRUPLE;aDEGREE FAHRENHEIT;aSCRIPT SMALL G;bCAPITAL H
aBLACK-LETTER CAPITAL H;aDOUBLE-STRUCK CAPITAL H;aPLANCK CONSTANT;cOVER TWO PI;aSCRIPT CAPITAL I;aBLACK-LETTER CAPITAL I
aSCRIPT CAPITAL L;bSMALL L;aL B BAR SYMBOL;aDOUBLE-STRUCK CAPITAL N;aNUMERO SIGN;aSOUND RECORDING COPY+RIGHT;aSCRIPT CAPITAL P
aDOUBLE-STRUCK CAPITAL P;cQ;aSCRIPT CAPITAL R;aBLACK-LETTER CAPITAL R;aDOUBLE-STRUCK CAPITAL R;aPRESCRIPTION TAKE;aRESPONSE
aSERVICE MARK;aTELEPHONE SIGN;aTRADE MARK SIGN;aVERSICLE;aDOUBLE-STRUCK CAPITAL Z;aOUNCE SIGN;aOHM SIGN;aINVERTED OHM SIGN
aBLACK-LETTER CAPITAL Z;aTURNED GREEK SMALL LETTER IOTA;aKELVIN SIGN;aANGSTROM SIGN;aSCRIPT CAPITAL B;aBLACK-LETTER CAPITAL C
aESTIMATED SYMBOL;aSCRIPT SMALL E;bCAPITAL E;cF;aTURNED CAPITAL F;aSCRIPT CAPITAL M;bSMALL O;aALEF SYMBOL;aBET SYMBOL
aGIMEL SYMBOL;aDALET SYMBOL;aINFORMATION SOURCE;aROTATED CAPITAL Q;aFACSIMILE SIGN;aDOUBLE-STRUCK SMALL PI;cGAMMA;bCAPITAL GAMMA
cPI;bN-ARY SUMMATION;aTURNED SANS-SERIF CAPITAL G;dL;aREVERSED SANS-SERIF CAPITAL L;aTURNED SANS-SERIF CAPITAL Y
aDOUBLE-STRUCK ITALIC CAPITAL D;cSMALL D;dE;dI;dJ;aPROPERTY LINE;aTURNED AMPERSAND;aPER SIGN;aAKTIESELSKAB;aTURNED SMALL F
aSYMBOL FOR SAMARITAN SOURCE;aVULGAR FRACTION ONE SEVENTH;dNINTH;dTENTH;dTHIRD;cTWO THIRDS;cONE FIFTH;cTWO FIFTHS;cTHREE FIFTHS
cFOUR FIFTHS;cONE SIXTH;cFIVE SIXTHS;cONE EIGHTH;cTHREE EIGHTHS;cFIVE EIGHTHS;cSEVEN EIGHTHS;aFRACTION NUMERATOR ONE
aROMAN NUMERAL ONE;cTWO;cTHREE;cFOUR;cFIVE;cSIX;cSEVEN;cEIGHT;cNINE;cTEN;cELEVEN;cTWELVE;cFIFTY;cONE HUNDRED;cFIVE HUNDRED
cONE THOUSAND;aSMALL ROMAN NUMERAL ONE;dTWO;dTHREE;dFOUR;dFIVE;dSIX;dSEVEN;dEIGHT;dNINE;dTEN;dELEVEN;dTWELVE;dFIFTY;dONE HUNDRED
dFIVE HUNDRED;dONE THOUSAND;aROMAN NUMERAL ONE THOUSAND C D;cFIVE THOUSAND;cTEN THOUSAND;cREVERSED ONE HUNDRED
aLATIN SMALL LETTER REVERSED C;aROMAN NUMERAL SIX LATE FORM;cFIFTY EARLY FORM;dTHOUSAND;cONE HUNDRED THOUSAND
aVULGAR FRACTION ZERO THIRDS;aTURNED DIGIT TWO;cTHREE;>2190;aLEFTWARDS ARROW;aUPWARDS ARROW;aRIGHTWARDS ARROW;aDOWNWARDS ARROW
aLEFT RIGHT ARROW;aUP DOWN ARROW;aNORTH WEST ARROW;bEAST ARROW;aSOUTH EAST ARROW;bWEST ARROW;aLEFTWARDS ARROW WITH STROKE
aRIGHTWARDS ARROW WITH STROKE;aLEFTWARDS WAVE ARROW;aRIGHTWARDS WAVE ARROW;aLEFTWARDS TWO HEADED ARROW;aUPWARDS TWO HEADED ARROW
aRIGHTWARDS TWO HEADED ARROW;aDOWNWARDS TWO HEADED ARROW;aLEFTWARDS ARROW WITH TAIL;aRIGHTWARDS ARROW WITH TAIL
aLEFTWARDS ARROW FROM BAR;aUPWARDS ARROW FROM BAR;aRIGHTWARDS ARROW FROM BAR;aDOWNWARDS ARROW FROM BAR;aUP DOWN ARROW WITH BASE
aLEFTWARDS ARROW WITH HOOK;aRIGHTWARDS ARROW WITH HOOK;aLEFTWARDS ARROW WITH LOOP;aRIGHTWARDS ARROW WITH LOOP
aLEFT RIGHT WAVE ARROW;cARROW WITH STROKE;aDOWNWARDS ZIGZAG ARROW;aUPWARDS ARROW WITH TIP LEFTWARDS;eRIGHTWARDS
aDOWNWARDS ARROW WITH TIP LEFTWARDS;eRIGHTWARDS;aRIGHTWARDS ARROW WITH CORNER DOWNWARDS;aDOWNWARDS ARROW WITH CORNER LEFTWARDS
aANTICLOCKWISE TOP SEMICIRCLE ARROW;aCLOCKWISE TOP SEMICIRCLE ARROW;aNORTH WEST ARROW TO LONG BAR
aLEFTWARDS ARROW TO BAR OVER RIGHTWARDS ARROW TO BAR;aANTICLOCKWISE OPEN CIRCLE ARROW;aCLOCKWISE OPEN CIRCLE ARROW
aLEFTWARDS HARPOON WITH BARB UPWARDS;eDOWNWARDS;aUPWARDS HARPOON WITH BARB RIGHTWARDS;eLEFTWARDS
aRIGHTWARDS HARPOON WITH BARB UPWARDS;eDOWNWARDS;aDOWNWARDS HARPOON WITH BARB RIGHTWARDS;eLEFTWARDS
aRIGHTWARDS ARROW OVER LEFTWARDS ARROW;aUPWARDS ARROW LEFTWARDS OF DOWNWARDS ARROW;aLEFTWARDS ARROW OVER RIGHTWARDS ARROW
bPAIRED ARROWS;aUPWARDS PAIRED ARROWS;aRIGHTWARDS PAIRED ARROWS;aDOWNWARDS PAIRED ARROWS
aLEFTWARDS HARPOON OVER RIGHTWARDS HARPOON;aRIGHTWARDS HARPOON OVER LEFTWARDS HARPOON;aLEFTWARDS DOUBLE ARROW WITH STROKE
aLEFT RIGHT DOUBLE ARROW WITH STROKE;aRIGHTWARDS DOUBLE ARROW WITH STROKE;aLEFTWARDS DOUBLE ARROW;aUPWARDS DOUBLE ARROW
aRIGHTWARDS DOUBLE ARROW;aDOWNWARDS DOUBLE ARROW;aLEFT RIGHT DOUBLE ARROW;aUP DOWN DOUBLE ARROW;aNORTH WEST DOUBLE ARROW
bEAST DOUBLE ARROW;aSOUTH EAST DOUBLE ARROW;bWEST DOUBLE ARROW;aLEFTWARDS TRIPLE ARROW;aRIGHTWARDS TRIPLE ARROW
aLEFTWARDS SQUIGGLE ARROW;aRIGHTWARDS SQUIGGLE ARROW;aUPWARDS ARROW WITH DOUBLE STROKE;aDOWNWARDS ARROW WITH DOUBLE STROKE
aLEFTWARDS DASHED ARROW;aUPWARDS DASHED ARROW;aRIGHTWARDS DASHED ARROW;aDOWNWARDS DASHED ARROW;aLEFTWARDS ARROW TO BAR
aRIGHTWARDS ARROW TO BAR;aLEFTWARDS WHITE ARROW;aUPWARDS WHITE ARROW;aRIGHTWARDS WHITE ARROW;aDOWNWARDS WHITE ARROW
aUPWARDS WHITE ARROW FROM BAR;dON PEDESTAL;fWITH HORIZONTAL BAR;gVERTICAL BAR;cDOUBLE ARROW;eON PEDESTAL
aRIGHTWARDS WHITE ARROW FROM WALL;aNORTH WEST ARROW TO CORNER;aSOUTH EAST ARROW TO CORNER;aUP DOWN WHITE ARROW
aRIGHT ARROW WITH SMALL CIRCLE;aDOWNWARDS ARROW LEFTWARDS OF UPWARDS ARROW;aTHREE RIGHTWARDS ARROWS
aLEFTWARDS ARROW WITH VERTICAL STROKE;aRIGHTWARDS ARROW WITH VERTICAL STROKE;aLEFT RIGHT ARROW WITH VERTICAL STROKE
aLEFTWARDS ARROW WITH DOUBLE VERTICAL STROKE;aRIGHTWARDS ARROW WITH DOUBLE VERTICAL STROKE
aLEFT RIGHT ARROW WITH DOUBLE VERTICAL STROKE;aLEFTWARDS OPEN-HEADED ARROW;aRIGHTWARDS OPEN-HEADED ARROW
aLEFT RIGHT OPEN-HEADED ARROW;aFOR ALL;aCOMPLEMENT;aPARTIAL DIFFERENTIAL;aTHERE EXISTS;bDOES NOT EXIST;aEMPTY SET;aINCREMENT
aNABLA;aELEMENT OF;aNOT AN ELEMENT OF;aSMALL ELEMENT OF;aCONTAINS AS MEMBER;aDOES NOT CONTAIN AS MEMBER
aSMALL CONTAINS AS MEMBER;aEND OF PROOF;aN-ARY PRODUCT;bCOPRODUCT;bSUMMATION;aMINUS SIGN;aMINUS-OR-PLUS SIGN;aDOT PLUS
aDIVISION SLASH;aSET MINUS;aASTERISK OPERATOR;aRING OPERATOR;aBULLET OPERATOR;aSQUARE ROOT;aCUBE ROOT;aFOURTH ROOT
aPROPORTIONAL TO;aINFINITY;aRIGHT ANGLE;aANGLE;aMEASURED ANGLE;aSPHERICAL ANGLE;aDIVIDES;aDOES NOT DIVIDE;aPARALLEL TO
aNOT PARALLEL TO;aLOGICAL AND;bOR;aINTERSECTION;aUNION;aINTEGRAL;aDOUBLE INTEGRAL;aTRIPLE INTEGRAL;aCONTOUR INTEGRAL
aSURFACE INTEGRAL;aVOLUME INTEGRAL;aCLOCKWISE INTEGRAL;bCONTOUR INTEGRAL;aANTICLOCKWISE CONTOUR INTEGRAL;aTHEREFORE;aBECAUSE
aRATIO;aPROPORTION;aDOT MINUS;aEXCESS;aGEOMETRIC PROPORTION;aHOMOTHETIC;aTILDE OPERATOR;aREVERSED TILDE;aINVERTED LAZY S
aSINE WAVE;aWREATH PRODUCT;aNOT TILDE;aMINUS TILDE;aASYMPTOTICALLY EQUAL TO;aNOT ASYMPTOTICALLY EQUAL TO;aAPPROXIMATELY EQUAL TO
bBUT NOT ACTUALLY EQUAL TO;aNEITHER APPROXIMATELY NOR ACTUALLY EQUAL TO;aALMOST EQUAL TO;aNOT ALMOST EQUAL TO
aALMOST EQUAL OR EQUAL TO;aTRIPLE TILDE;aALL EQUAL TO;aEQUIVALENT TO;aGEOMETRICALLY EQUIVALENT TO;aDIFFERENCE BETWEEN
aAPPROACHES THE LIMIT;aGEOMETRICALLY EQUAL TO;aAPPROXIMATELY EQUAL TO OR THE IMAGE OF;aIMAGE OF OR APPROXIMATELY EQUAL TO
aCOLON EQUALS;aEQUALS COLON;aRING IN EQUAL TO;bEQUAL TO;aCORRESPONDS TO;aESTIMATES;aEQUIANGULAR TO;aSTAR EQUALS;aDELTA EQUAL TO
aEQUAL TO BY DEFINITION;aMEASURED BY;aQUESTIONED EQUAL TO;aNOT EQUAL TO;aIDENTICAL TO;aNOT IDENTICAL TO;aSTRICTLY EQUIVALENT TO
aLESS-THAN OR EQUAL TO;aGREATER-THAN OR EQUAL TO;aLESS-THAN OVER EQUAL TO;aGREATER-THAN OVER EQUAL TO
aLESS-THAN BUT NOT EQUAL TO;aGREATER-THAN BUT NOT EQUAL TO;aMUCH LESS-THAN;bGREATER-THAN;aBETWEEN;aNOT EQUIVALENT TO;bLESS-THAN
bGREATER-THAN;aNEITHER LESS-THAN NOR EQUAL TO;bGREATER-THAN NOR EQUAL TO;aLESS-THAN OR EQUIVALENT TO
aGREATER-THAN OR EQUIVALENT TO;aNEITHER LESS-THAN NOR EQUIVALENT TO;bGREATER-THAN NOR EQUIVALENT TO;aLESS-THAN OR GREATER-THAN
aGREATER-THAN OR LESS-THAN;aNEITHER LESS-THAN NOR GREATER-THAN;bGREATER-THAN NOR LESS-THAN;aPRECEDES;aSUCCEEDS
aPRECEDES OR EQUAL TO;aSUCCEEDS OR EQUAL TO;aPRECEDES OR EQUIVALENT TO;aSUCCEEDS OR EQUIVALENT TO;aDOES NOT PRECEDE;cSUCCEED
aSUBSET OF;aSUPERSET OF;aNOT A SUBSET OF;cSUPERSET OF;aSUBSET OF OR EQUAL TO;aSUPERSET OF OR EQUAL TO
aNEITHER A SUBSET OF NOR EQUAL TO;cSUPERSET OF NOR EQUAL TO;aSUBSET OF WITH NOT EQUAL TO;aSUPERSET OF WITH NOT EQUAL TO
aMULTISET;bMULTIPLICATION;bUNION;aSQUARE IMAGE OF;bORIG+INAL OF;bIMAGE OF OR EQUAL TO;bORIG+INAL OF OR EQUAL TO;bCAP;bCUP
aCIRCLED PLUS;bMINUS;bTIMES;bDIVISION SLASH;bDOT OPERATOR;bRING OPERATOR;bASTERISK OPERATOR;bEQUALS;bDASH;aSQUARED PLUS;bMINUS
bTIMES;bDOT OPERATOR;aRIGHT TACK;aLEFT TACK;aDOWN TACK;aUP TACK;aASSERTION;aMODELS;aTRUE;aFORCES
aTRIPLE VERTICAL BAR RIGHT TURNSTILE;aDOUBLE VERTICAL BAR DOUBLE RIGHT TURNSTILE;aDOES NOT PROVE;aNOT TRUE;aDOES NOT FORCE
aNEGATED DOUBLE VERTICAL BAR DOUBLE RIGHT TURNSTILE;aPRECEDES UNDER RELATION;aSUCCEEDS UNDER RELATION;aNORMAL SUBGROUP OF
aCONTAINS AS NORMAL SUBGROUP;aNORMAL SUBGROUP OF OR EQUAL TO;aCONTAINS AS NORMAL SUBGROUP OR EQUAL TO;aORIG+INAL OF;aIMAGE OF
aMULTIMAP;aHERMITIAN CONJUGATE MATRIX;aINTERCALATE;aXOR;aNAND;aNOR;aRIGHT ANGLE WITH ARC;bTRIANGLE;aN-ARY LOGICAL AND;cOR
bINTERSECTION;bUNION;aDIAMOND OPERATOR;aDOT OPERATOR;aSTAR OPERATOR;aDIVISION TIMES;aBOWTIE
aLEFT NORMAL FACTOR SEMIDIRECT PRODUCT;aRIGHT NORMAL FACTOR SEMIDIRECT PRODUCT;aLEFT SEMIDIRECT PRODUCT
aRIGHT SEMIDIRECT PRODUCT;aREVERSED TILDE EQUALS;aCURLY LOGICAL OR;cAND;aDOUBLE SUBSET;bSUPERSET;bINTERSECTION;bUNION;aPITCHFORK
aEQUAL AND PARALLEL TO;aLESS-THAN WITH DOT;aGREATER-THAN WITH DOT;aVERY MUCH LESS-THAN;cGREATER-THAN
aLESS-THAN EQUAL TO OR GREATER-THAN;aGREATER-THAN EQUAL TO OR LESS-THAN;aEQUAL TO OR LESS-THAN;dGREATER-THAN;dPRECEDES;dSUCCEEDS
aDOES NOT PRECEDE OR EQUAL;cSUCCEED OR EQUAL;aNOT SQUARE IMAGE OF OR EQUAL TO;cORIG+INAL OF OR EQUAL TO
aSQUARE IMAGE OF OR NOT EQUAL TO;bORIG+INAL OF OR NOT EQUAL TO;aLESS-THAN BUT NOT EQUIVALENT TO
aGREATER-THAN BUT NOT EQUIVALENT TO;aPRECEDES BUT NOT EQUIVALENT TO;aSUCCEEDS BUT NOT EQUIVALENT TO;aNOT NORMAL SUBGROUP OF
aDOES NOT CONTAIN AS NORMAL SUBGROUP;aNOT NORMAL SUBGROUP OF OR EQUAL TO;aDOES NOT CONTAIN AS NORMAL SUBGROUP OR EQUAL
aVERTICAL ELLIPSIS;aMIDLINE HORIZONTAL ELLIPSIS;aUP RIGHT DIAGONAL ELLIPSIS;aDOWN RIGHT DIAGONAL ELLIPSIS
aELEMENT OF WITH LONG HORIZONTAL STROKE;dVERTICAL BAR AT END OF HORIZONTAL STROKE
aSMALL ELEMENT OF WITH VERTICAL BAR AT END OF HORIZONTAL STROKE;aELEMENT OF WITH DOT ABOVE;dOVERBAR
aSMALL ELEMENT OF WITH OVERBAR;aELEMENT OF WITH UNDERBAR;dTWO HORIZONTAL STROKES;aCONTAINS WITH LONG HORIZONTAL STROKE
cVERTICAL BAR AT END OF HORIZONTAL STROKE;aSMALL CONTAINS WITH VERTICAL BAR AT END OF HORIZONTAL STROKE;aCONTAINS WITH OVERBAR
aSMALL CONTAINS WITH OVERBAR;aZ NOTATION BAG MEMBERSHIP;aDIAMETER SIGN;aELECTRIC ARROW;aHOUSE;aUP ARROWHEAD;aDOWN ARROWHEAD
aPROJECTIVE;aPERSPECTIVE;aWAVY LINE;aLEFT CEILING;aRIGHT CEILING;aLEFT FLOOR;aRIGHT FLOOR;aBOTTOM RIGHT CROP;bLEFT CROP
aTOP RIGHT CROP;bLEFT CROP;aREVERSED NOT SIGN;aSQUARE LOZENGE;aARC;aSEGMENT;aSECTOR;aTELEPHONE RECORDER;aPOSITION INDICATOR
aVIEWDATA SQUARE;aPLACE OF INTEREST SIGN;aTURNED NOT SIGN;aWATCH;aHOURGLASS;aTOP LEFT CORNER;bRIGHT CORNER;aBOTTOM LEFT CORNER
bRIGHT CORNER;aTOP HALF INTEGRAL;aBOTTOM HALF INTEGRAL;aFROWN;aSMILE;aUP ARROWHEAD BETWEEN TWO HORIZONTAL BARS;aOPTION KEY
aERASE TO THE RIGHT;aX IN A RECTANGLE BOX;aKEYBOARD;aLEFT-POINTING ANGLE BRACKET;aRIGHT-POINTING ANGLE BRACKET
aERASE TO THE LEFT;aBENZENE RING;aCYLINDRICITY;aALL AROUND-PROFILE;aSYMMETRY;aTOTAL RUNOUT;aDIMENSION ORIGIN;aCONICAL TAPER
aSLOPE;aCOUNTERBORE;aCOUNTERSINK;aAPL FUNCTIONAL SYMBOL I-BEAM;dSQUISH QUAD;dQUAD EQUAL;eDIVIDE;eDIAMOND;eJOT;eCIRCLE
dCIRCLE STILE;eJOT;dSLASH BAR;dBACKSLASH BAR;dQUAD SLASH;eBACKSLASH;eLESS-THAN;eGREATER-THAN;dLEFTWARDS VANE;dRIGHTWARDS VANE
dQUAD LEFTWARDS ARROW;eRIGHTWARDS ARROW;dCIRCLE BACKSLASH;dDOWN TACK UNDERBAR;dDELTA STILE;dQUAD DOWN CARET;eDELTA
dDOWN TACK JOT;dUPWARDS VANE;dQUAD UPWARDS ARROW;dUP TACK OVERBAR;dDEL STILE;dQUAD UP CARET;eDEL;dUP TACK JOT;dDOWNWARDS VANE
dQUAD DOWNWARDS ARROW;dQUOTE UNDERBAR;dDELTA UNDERBAR;dDIAMOND UNDERBAR;dJOT UNDERBAR;dCIRCLE UNDERBAR;dUP SHOE JOT;dQUOTE QUAD
dCIRCLE STAR;dQUAD COLON;dUP TACK DIAERESIS;dDEL DIAERESIS;dSTAR DIAERESIS;dJOT DIAERESIS;dCIRCLE DIAERESIS;dDOWN SHOE STILE
dLEFT SHOE STILE;dTILDE DIAERESIS;dGREATER-THAN DIAERESIS;dCOMMA BAR;dDEL TILDE;dZILDE;dSTILE TILDE;dSEMICOLON UNDERBAR
dQUAD NOT EQUAL;eQUESTION;dDOWN CARET TILDE;dUP CARET TILDE;dIOTA;dRHO;dOMEGA;dALPHA UNDERBAR;dEPSILON UNDERBAR;dIOTA UNDERBAR
dOMEGA UNDERBAR;dALPHA;aNOT CHECK MARK;aRIGHT ANGLE WITH DOWNWARDS ZIGZAG ARROW;aSHOULDERED OPEN BOX;aBELL SYMBOL
aVERTICAL LINE WITH MIDDLE DOT;aINSERTION SYMBOL;aCONTINUOUS UNDERLINE SYMBOL;aDISCONTINUOUS UNDERLINE SYMBOL;aEMPHASIS SYMBOL
aCOMPOSITION SYMBOL;aWHITE SQUARE WITH CENTRE VERTICAL LINE;aENTER SYMBOL;aALTERNATIVE KEY SYMBOL;aHELM SYMBOL
aCIRCLED HORIZONTAL BAR WITH NOTCH;bTRIANGLE DOWN;aBROKEN CIRCLE WITH NORTHWEST ARROW;aUNDO SYMBOL;aMONOSTABLE SYMBOL
aHYSTERESIS SYMBOL;aOPEN-CIRCUIT-OUTPUT H-TYPE SYMBOL;bL-TYPE SYMBOL;aPASSIVE-PULL-DOWN-OUTPUT SYMBOL
aPASSIVE-PULL-UP-OUTPUT SYMBOL;aDIRECT CURRENT SYMBOL FORM TWO;aSOFTWARE-FUNCTION SYMBOL;aAPL FUNCTIONAL SYMBOL QUAD
aDECIMAL SEPARATOR KEY SYMBOL;aPREVIOUS PAGE;aNEXT PAGE;aPRINT SCREEN SYMBOL;aCLEAR SCREEN SYMBOL;aLEFT PARENTHESIS UPPER HOOK
cEXTENSION;cLOWER HOOK;aRIGHT PARENTHESIS UPPER HOOK;cEXTENSION;cLOWER HOOK;aLEFT SQUARE BRACKET UPPER CORNER;dEXTENSION
dLOWER CORNER;aRIGHT SQUARE BRACKET UPPER CORNER;dEXTENSION;dLOWER CORNER;aLEFT CURLY BRACKET UPPER HOOK;dMIDDLE PIECE
dLOWER HOOK;aCURLY BRACKET EXTENSION;aRIGHT CURLY BRACKET UPPER HOOK;dMIDDLE PIECE;dLOWER HOOK;aINTEGRAL EXTENSION
aHORIZONTAL LINE EXTENSION;aUPPER LEFT OR LOWER RIGHT CURLY BRACKET SECTION;bRIGHT OR LOWER LEFT CURLY BRACKET SECTION
aSUMMATION TOP;bBOTTOM;aTOP SQUARE BRACKET;aBOTTOM SQUARE BRACKET;dOVER TOP SQUARE BRACKET;aRADICAL SYMBOL BOTTOM
aLEFT VERTICAL BOX LINE;aRIGHT VERTICAL BOX LINE;aHORIZONTAL SCAN LINE-1;cLINE-3;cLINE-7;cLINE-9
aDENTISTRY SYMBOL LIGHT VERTICAL AND TOP RIGHT;fBOTTOM RIGHT;eWITH CIRCLE;dDOWN AND HORIZONTAL WITH CIRCLE
dUP AND HORIZONTAL WITH CIRCLE;dVERTICAL WITH TRIANGLE;dDOWN AND HORIZONTAL WITH TRIANGLE;dUP AND HORIZONTAL WITH TRIANGLE
dVERTICAL AND WAVE;dDOWN AND HORIZONTAL WITH WAVE;dUP AND HORIZONTAL WITH WAVE;dDOWN AND HORIZONTAL;dUP AND HORIZONTAL
dVERTICAL AND TOP LEFT;fBOTTOM LEFT;aSQUARE FOOT;aRETURN SYMBOL;aEJECT SYMBOL;aVERTICAL LINE EXTENSION;aMETRICAL BREVE
bLONG OVER SHORT;bSHORT OVER LONG;bLONG OVER TWO SHORTS;bTWO SHORTS OVER LONG;dJOINED;bTRISEME;bTETRASEME;bPENTASEME
aEARTH GROUND;aFUSE;aTOP PARENTHESIS;aBOTTOM PARENTHESIS;aTOP CURLY BRACKET;aBOTTOM CURLY BRACKET;aTOP TORTOISE SHELL BRACKET
aBOTTOM TORTOISE SHELL BRACKET;aWHITE TRAPEZIUM;aBENZENE RING WITH CIRCLE;aSTRAIGHTNESS;aFLATNESS;aAC CURRENT
aELECTRICAL INTERSECTION;aDECIMAL EXPONENT SYMBOL;aBLACK RIGHT-POINTING DOUBLE TRIANGLE;bLEFT-POINTING DOUBLE TRIANGLE
bUP-POINTING DOUBLE TRIANGLE;bDOWN-POINTING DOUBLE TRIANGLE;bRIGHT-POINTING DOUBLE TRIANGLE WITH VERTICAL BAR
bLEFT-POINTING DOUBLE TRIANGLE WITH VERTICAL BAR;bRIGHT-POINTING TRIANGLE WITH DOUBLE VERTICAL BAR;aALARM CLOCK;aSTOPWATCH
aTIMER CLOCK;aHOURGLASS WITH FLOWING SAND;aBLACK MEDIUM LEFT-POINTING TRIANGLE;cRIGHT-POINTING TRIANGLE;cUP-POINTING TRIANGLE
cDOWN-POINTING TRIANGLE;aDOUBLE VERTICAL BAR;aBLACK SQUARE FOR STOP;bCIRCLE FOR RECORD;aPOWER SYMBOL;bON-OFF SYMBOL;bON SYMBOL
bSLEEP SYMBOL;aOBSERVER EYE SYMBOL;aSYMBOL FOR NULL;cSTART OF HEADING;eTEXT;cEND OF TEXT;eTRANSMISSION;cENQUIRY;cACKNOWLEDGE
cBELL;cBACKSPACE;cHORIZONTAL TABULATION;cLINE FEED;cVERTICAL TABULATION;cFORM FEED;cCARRIAGE RETURN;cSHIFT OUT;dIN
cDATA LINK ESCAPE;cDEVICE CONTROL ONE;eTWO;eTHREE;eFOUR;cNEGATIVE ACKNOWLEDGE;cSYNCHRONOUS IDLE;cEND OF TRANSMISSION BLOCK
cCANCEL;cEND OF MEDIUM;cSUBSTITUTE;cESCAPE;cFILE SEPARATOR;cGROUP SEPARATOR;cRECORD SEPARATOR;cUNIT SEPARATOR;cSPACE;cDELETE
aBLANK SYMBOL;aOPEN BOX;aSYMBOL FOR NEWLINE;cDELETE FORM TWO;cSUBSTITUTE FORM TWO;>2440;aOCR HOOK;bCHAIR;bFORK;bINVERTED FORK
bBELT BUCKLE;bBOW TIE;bBRANCH BANK IDENTIFICATION;bAMOUNT OF CHECK;bDASH;bCUSTOMER ACCOUNT NUMBER;bDOUBLE BACKSLASH;>2460
aCIRCLED DIGIT ONE;cTWO;cTHREE;cFOUR;cFIVE;cSIX;cSEVEN;cEIGHT;cNINE;bNUMBER TEN;cELEVEN;cTWELVE;cTHIRTEEN;cFOURTEEN;cFIFTEEN
cSIXTEEN;cSEVENTEEN;cEIGHTEEN;cNINETEEN;cTWENTY;aPARENTHESIZED DIGIT ONE;cTWO;cTHREE;cFOUR;cFIVE;cSIX;cSEVEN;cEIGHT;cNINE
bNUMBER TEN;cELEVEN;cTWELVE;cTHIRTEEN;cFOURTEEN;cFIFTEEN;cSIXTEEN;cSEVENTEEN;cEIGHTEEN;cNINETEEN;cTWENTY;aDIGIT ONE FULL STOP
bTWO FULL STOP;bTHREE FULL STOP;bFOUR FULL STOP;bFIVE FULL STOP;bSIX FULL STOP;bSEVEN FULL STOP;bEIGHT FULL STOP;bNINE FULL STOP
aNUMBER TEN FULL STOP;bELEVEN FULL STOP;bTWELVE FULL STOP;bTHIRTEEN FULL STOP;bFOURTEEN FULL STOP;bFIFTEEN FULL STOP
bSIXTEEN FULL STOP;bSEVENTEEN FULL STOP;bEIGHTEEN FULL STOP;bNINETEEN FULL STOP;bTWENTY FULL STOP
aPARENTHESIZED LATIN SMALL LETTER A;eB;eC;eD;eE;eF;eG;eH;eI;eJ;eK;eL;eM;eN;eO;eP;eQ;eR;eS;eT;eU;eV;eW;eX;eY;eZ
aCIRCLED LATIN CAPITAL LETTER A;eB;eC;eD;eE;eF;eG;eH;eI;eJ;eK;eL;eM;eN;eO;eP;eQ;eR;eS;eT;eU;eV;eW;eX;eY;eZ;cSMALL LETTER A;eB;eC
eD;eE;eF;eG;eH;eI;eJ;eK;eL;eM;eN;eO;eP;eQ;eR;eS;eT;eU;eV;eW;eX;eY;eZ;bDIGIT ZERO;aNEGATIVE CIRCLED NUMBER ELEVEN;dTWELVE
dTHIRTEEN;dFOURTEEN;dFIFTEEN;dSIXTEEN;dSEVENTEEN;dEIGHTEEN;dNINETEEN;dTWENTY;aDOUBLE CIRCLED DIGIT ONE;dTWO;dTHREE;dFOUR;dFIVE
dSIX;dSEVEN;dEIGHT;dNINE;cNUMBER TEN;aNEGATIVE CIRCLED DIGIT ZERO;aBOX DRAWINGS LIGHT HORIZONTAL;cHEAVY HORIZONTAL
cLIGHT VERTICAL;cHEAVY VERTICAL;cLIGHT TRIPLE DASH HORIZONTAL;cHEAVY TRIPLE DASH HORIZONTAL;cLIGHT TRIPLE DASH VERTICAL
cHEAVY TRIPLE DASH VERTICAL;cLIGHT QUADRUPLE DASH HORIZONTAL;cHEAVY QUADRUPLE DASH HORIZONTAL;cLIGHT QUADRUPLE DASH VERTICAL
cHEAVY QUADRUPLE DASH VERTICAL;cLIGHT DOWN AND RIGHT;cDOWN LIGHT AND RIGHT HEAVY;dHEAVY AND RIGHT LIGHT;cHEAVY DOWN AND RIGHT
cLIGHT DOWN AND LEFT;cDOWN LIGHT AND LEFT HEAVY;dHEAVY AND LEFT LIGHT;cHEAVY DOWN AND LEFT;cLIGHT UP AND RIGHT
cUP LIGHT AND RIGHT HEAVY;dHEAVY AND RIGHT LIGHT;cHEAVY UP AND RIGHT;cLIGHT UP AND LEFT;cUP LIGHT AND LEFT HEAVY
dHEAVY AND LEFT LIGHT;cHEAVY UP AND LEFT;cLIGHT VERTICAL AND RIGHT;cVERTICAL LIGHT AND RIGHT HEAVY
cUP HEAVY AND RIGHT DOWN LIGHT;cDOWN HEAVY AND RIGHT UP LIGHT;cVERTICAL HEAVY AND RIGHT LIGHT;cDOWN LIGHT AND RIGHT UP HEAVY
cUP LIGHT AND RIGHT DOWN HEAVY;cHEAVY VERTICAL AND RIGHT;cLIGHT VERTICAL AND LEFT;cVERTICAL LIGHT AND LEFT HEAVY
cUP HEAVY AND LEFT DOWN LIGHT;cDOWN HEAVY AND LEFT UP LIGHT;cVERTICAL HEAVY AND LEFT LIGHT;cDOWN LIGHT AND LEFT UP HEAVY
cUP LIGHT AND LEFT DOWN HEAVY;cHEAVY VERTICAL AND LEFT;cLIGHT DOWN AND HORIZONTAL;cLEFT HEAVY AND RIGHT DOWN LIGHT
cRIGHT HEAVY AND LEFT DOWN LIGHT;cDOWN LIGHT AND HORIZONTAL HEAVY;dHEAVY AND HORIZONTAL LIGHT;cRIGHT LIGHT AND LEFT DOWN HEAVY
cLEFT LIGHT AND RIGHT DOWN HEAVY;cHEAVY DOWN AND HORIZONTAL;cLIGHT UP AND HORIZONTAL;cLEFT HEAVY AND RIGHT UP LIGHT
cRIGHT HEAVY AND LEFT UP LIGHT;cUP LIGHT AND HORIZONTAL HEAVY;dHEAVY AND HORIZONTAL LIGHT;cRIGHT LIGHT AND LEFT UP HEAVY
cLEFT LIGHT AND RIGHT UP HEAVY;cHEAVY UP AND HORIZONTAL;cLIGHT VERTICAL AND HORIZONTAL;cLEFT HEAVY AND RIGHT VERTICAL LIGHT
cRIGHT HEAVY AND LEFT VERTICAL LIGHT;cVERTICAL LIGHT AND HORIZONTAL HEAVY;cUP HEAVY AND DOWN HORIZONTAL LIGHT
cDOWN HEAVY AND UP HORIZONTAL LIGHT;cVERTICAL HEAVY AND HORIZONTAL LIGHT;cLEFT UP HEAVY AND RIGHT DOWN LIGHT
cRIGHT UP HEAVY AND LEFT DOWN LIGHT;cLEFT DOWN HEAVY AND RIGHT UP LIGHT;cRIGHT DOWN HEAVY AND LEFT UP LIGHT
cDOWN LIGHT AND UP HORIZONTAL HEAVY;cUP LIGHT AND DOWN HORIZONTAL HEAVY;cRIGHT LIGHT AND LEFT VERTICAL HEAVY
cLEFT LIGHT AND RIGHT VERTICAL HEAVY;cHEAVY VERTICAL AND HORIZONTAL;cLIGHT DOUBLE DASH HORIZONTAL;cHEAVY DOUBLE DASH HORIZONTAL
cLIGHT DOUBLE DASH VERTICAL;cHEAVY DOUBLE DASH VERTICAL;cDOUBLE HORIZONTAL;dVERTICAL;cDOWN SINGLE AND RIGHT DOUBLE
dDOUBLE AND RIGHT SINGLE;cDOUBLE DOWN AND RIGHT;cDOWN SINGLE AND LEFT DOUBLE;dDOUBLE AND LEFT SINGLE;cDOUBLE DOWN AND LEFT
cUP SINGLE AND RIGHT DOUBLE;dDOUBLE AND RIGHT SINGLE;cDOUBLE UP AND RIGHT;cUP SINGLE AND LEFT DOUBLE;dDOUBLE AND LEFT SINGLE
cDOUBLE UP AND LEFT;cVERTICAL SINGLE AND RIGHT DOUBLE;dDOUBLE AND RIGHT SINGLE;cDOUBLE VERTICAL AND RIGHT
cVERTICAL SINGLE AND LEFT DOUBLE;dDOUBLE AND LEFT SINGLE;cDOUBLE VERTICAL AND LEFT;cDOWN SINGLE AND HORIZONTAL DOUBLE
dDOUBLE AND HORIZONTAL SINGLE;cDOUBLE DOWN AND HORIZONTAL;cUP SINGLE AND HORIZONTAL DOUBLE;dDOUBLE AND HORIZONTAL SINGLE
cDOUBLE UP AND HORIZONTAL;cVERTICAL SINGLE AND HORIZONTAL DOUBLE;dDOUBLE AND HORIZONTAL SINGLE;cDOUBLE VERTICAL AND HORIZONTAL
cLIGHT ARC DOWN AND RIGHT;gLEFT;eUP AND LEFT;gRIGHT;dDIAGONAL UPPER RIGHT TO LOWER LEFT;fLEFT TO LOWER RIGHT;eCROSS;dLEFT;dUP
dRIGHT;dDOWN;cHEAVY LEFT;dUP;dRIGHT;dDOWN;cLIGHT LEFT AND HEAVY RIGHT;dUP AND HEAVY DOWN;cHEAVY LEFT AND LIGHT RIGHT
dUP AND LIGHT DOWN;aUPPER HALF BLOCK;aLOWER ONE EIGHTH BLOCK;cQUARTER BLOCK;bTHREE EIGHTHS BLOCK;bHALF BLOCK;bFIVE EIGHTHS BLOCK
bTHREE QUARTERS BLOCK;bSEVEN EIGHTHS BLOCK;aFULL BLOCK;aLEFT SEVEN EIGHTHS BLOCK;bTHREE QUARTERS BLOCK;bFIVE EIGHTHS BLOCK
bHALF BLOCK;bTHREE EIGHTHS BLOCK;bONE QUARTER BLOCK;cEIGHTH BLOCK;aRIGHT HALF BLOCK;aLIGHT SHADE;aMEDIUM SHADE;aDARK SHADE
aUPPER ONE EIGHTH BLOCK;aRIGHT ONE EIGHTH BLOCK;aQUADRANT LOWER LEFT;cRIGHT;bUPPER LEFT;dAND LOWER LEFT AND LOWER RIGHT;fRIGHT
eUPPER RIGHT AND LOWER LEFT;iRIGHT;cRIGHT;dAND LOWER LEFT;gAND LOWER RIGHT;aBLACK SQUARE;aWHITE SQUARE;cWITH ROUNDED CORNERS
cCONTAINING BLACK SMALL SQUARE;aSQUARE WITH HORIZONTAL FILL;cVERTICAL FILL;cORTHOGONAL CROSSHATCH FILL
cUPPER LEFT TO LOWER RIGHT FILL;dRIGHT TO LOWER LEFT FILL;cDIAGONAL CROSSHATCH FILL;aBLACK SMALL SQUARE;aWHITE SMALL SQUARE
aBLACK RECTANGLE;aWHITE RECTANGLE;aBLACK VERTICAL RECTANGLE;aWHITE VERTICAL RECTANGLE;aBLACK PARALLELOGRAM;aWHITE PARALLELOGRAM
aBLACK UP-POINTING TRIANGLE;aWHITE UP-POINTING TRIANGLE;aBLACK UP-POINTING SMALL TRIANGLE;aWHITE UP-POINTING SMALL TRIANGLE
aBLACK RIGHT-POINTING TRIANGLE;aWHITE RIGHT-POINTING TRIANGLE;aBLACK RIGHT-POINTING SMALL TRIANGLE
aWHITE RIGHT-POINTING SMALL TRIANGLE;aBLACK RIGHT-POINTING POINTER;aWHITE RIGHT-POINTING POINTER;aBLACK DOWN-POINTING TRIANGLE
aWHITE DOWN-POINTING TRIANGLE;aBLACK DOWN-POINTING SMALL TRIANGLE;aWHITE DOWN-POINTING SMALL TRIANGLE
aBLACK LEFT-POINTING TRIANGLE;aWHITE LEFT-POINTING TRIANGLE;aBLACK LEFT-POINTING SMALL TRIANGLE
aWHITE LEFT-POINTING SMALL TRIANGLE;aBLACK LEFT-POINTING POINTER;aWHITE LEFT-POINTING POINTER;aBLACK DIAMOND;aWHITE DIAMOND
cCONTAINING BLACK SMALL DIAMOND;aFISHEYE;aLOZENGE;aWHITE CIRCLE;aDOTTED CIRCLE;aCIRCLE WITH VERTICAL FILL;aBULLSEYE
aBLACK CIRCLE;aCIRCLE WITH LEFT HALF BLACK;cRIGHT HALF BLACK;cLOWER HALF BLACK;cUPPER HALF BLACK;dRIGHT QUADRANT BLACK
cALL BUT UPPER LEFT QUADRANT BLACK;aLEFT HALF BLACK CIRCLE;aRIGHT HALF BLACK CIRCLE;aINVERSE BULLET;bWHITE CIRCLE
aUPPER HALF INVERSE WHITE CIRCLE;aLOWER HALF INVERSE WHITE CIRCLE;aUPPER LEFT QUADRANT CIRCULAR ARC;bRIGHT QUADRANT CIRCULAR ARC
aLOWER RIGHT QUADRANT CIRCULAR ARC;bLEFT QUADRANT CIRCULAR ARC;aUPPER HALF CIRCLE;aLOWER HALF CIRCLE;aBLACK LOWER RIGHT TRIANGLE
cLEFT TRIANGLE;bUPPER LEFT TRIANGLE;cRIGHT TRIANGLE;aWHITE BULLET;aSQUARE WITH LEFT HALF BLACK;cRIGHT HALF BLACK
cUPPER LEFT DIAGONAL HALF BLACK;cLOWER RIGHT DIAGONAL HALF BLACK;aWHITE SQUARE WITH VERTICAL BISECTING LINE
bUP-POINTING TRIANGLE WITH DOT;aUP-POINTING TRIANGLE WITH LEFT HALF BLACK;dRIGHT HALF BLACK;aLARGE CIRCLE
aWHITE SQUARE WITH UPPER LEFT QUADRANT;dLOWER LEFT QUADRANT;eRIGHT QUADRANT;dUPPER RIGHT QUADRANT
bCIRCLE WITH UPPER LEFT QUADRANT;dLOWER LEFT QUADRANT;eRIGHT QUADRANT;dUPPER RIGHT QUADRANT;aUPPER LEFT TRIANGLE;bRIGHT TRIANGLE
aLOWER LEFT TRIANGLE;aWHITE MEDIUM SQUARE;aBLACK MEDIUM SQUARE;aWHITE MEDIUM SMALL SQUARE;aBLACK MEDIUM SMALL SQUARE
aLOWER RIGHT TRIANGLE;aBLACK SUN WITH RAYS;aCLOUD;aUMBRELLA;aSNOWMAN;aCOMET;aBLACK STAR;aWHITE STAR;aLIGHTNING;aTHUNDERSTORM
aSUN;aASCENDING NODE;aDESCENDING NODE;aCONJUNCTION;aOPPOSITION;aBLACK TELEPHONE;aWHITE TELEPHONE;aBALLOT BOX;cWITH CHECK;dX
aSALTIRE;aUMBRELLA WITH RAIN DROPS;aHOT BEVERAGE;aWHITE SHOGI PIECE;aBLACK SHOGI PIECE;aSHAMROCK
aREVERSED ROTATED FLORAL HEART BULLET;aBLACK LEFT POINTING INDEX;bRIGHT POINTING INDEX;aWHITE LEFT POINTING INDEX
bUP POINTING INDEX;bRIGHT POINTING INDEX;bDOWN POINTING INDEX;aSKULL AND CROSSBONES;aCAUTION SIGN;aRADIOACTIVE SIGN
aBIOHAZARD SIGN;aCADUCEUS;aANKH;aORTHODOX CROSS;aCHI RHO;aCROSS OF LORRAINE;cJERUSALEM;aSTAR AND CRESCENT;aFARSI SYMBOL
aADI SHAKTI;aHAMMER AND SICKLE;aPEACE SYMBOL;aYIN YANG;aTRIGRAM FOR HEAVEN;cLAKE;cFIRE;cTHUNDER;cWIND;cWATER;cMOUNTAIN;cEARTH
aWHEEL OF DHARMA;aWHITE FROWNING FACE;bSMILING FACE;aBLACK SMILING FACE;aWHITE SUN WITH RAYS;aFIRST QUARTER MOON
aLAST QUARTER MOON;aMERCURY;aFEMALE SIGN;aEARTH;aMALE SIGN;aJUPITER;aSATURN;aURANUS;aNEPTUNE;aPLUTO;aARIES;aTAURUS;aGEMINI
aCANCER;aLEO;aVIRGO;aLIBRA;aSCORPIUS;aSAGITTARIUS;aCAPRICORN;aAQUARIUS;aPISCES;aWHITE CHESS KING;cQUEEN;cROOK;cBISHOP;cKNIGHT
cPAWN;aBLACK CHESS KING;cQUEEN;cROOK;cBISHOP;cKNIGHT;cPAWN;bSPADE SUIT;aWHITE HEART SUIT;bDIAMOND SUIT;aBLACK CLUB SUIT
aWHITE SPADE SUIT;aBLACK HEART SUIT;bDIAMOND SUIT;aWHITE CLUB SUIT;aHOT SPRINGS;aQUARTER NOTE;aEIGHTH NOTE;aBEAMED EIGHTH NOTES
bSIXTEENTH NOTES;aMUSIC FLAT SIGN;bNATURAL SIGN;bSHARP SIGN;aWEST SYRIAC CROSS;aEAST SYRIAC CROSS;aUNIVERSAL RECYCLING SYMBOL
aRECYCLING SYMBOL FOR TYPE-1 PLASTICS;dTYPE-2 PLASTICS;dTYPE-3 PLASTICS;dTYPE-4 PLASTICS;dTYPE-5 PLASTICS;dTYPE-6 PLASTICS
dTYPE-7 PLASTICS;dGENERIC MATERIALS;aBLACK UNIVERSAL RECYCLING SYMBOL;aRECYCLED PAPER SYMBOL;aPARTIALLY-RECYCLED PAPER SYMBOL
aPERMANENT PAPER SIGN;aWHEELCHAIR SYMBOL;aDIE FACE-1;bFACE-2;bFACE-3;bFACE-4;bFACE-5;bFACE-6;aWHITE CIRCLE WITH DOT RIGHT
dTWO DOTS;aBLACK CIRCLE WITH WHITE DOT RIGHT;dTWO WHITE DOTS;aMONOGRAM FOR YANG;cYIN;aDIGRAM FOR GREATER YANG;cLESSER YIN;dYANG
cGREATER YIN;aWHITE FLAG;aBLACK FLAG;aHAMMER AND PICK;aANCHOR;aCROSSED SWORDS;aSTAFF OF AESCULAPIUS;aSCALES;aALEMBIC;aFLOWER
aGEAR;aSTAFF OF HERMES;aATOM SYMBOL;aFLEUR-DE-LIS;aOUTLINED WHITE STAR;aTHREE LINES CONVERGING RIGHT;dLEFT;aWARNING SIGN
aHIGH VOLTAGE SIGN;aDOUBLED FEMALE SIGN;bMALE SIGN;aINTERLOCKED FEMALE AND MALE SIGN;aMALE AND FEMALE SIGN;bWITH STROKE SIGN
dAND MALE AND FEMALE SIGN;aVERTICAL MALE WITH STROKE SIGN;aHORIZONTAL MALE WITH STROKE SIGN;aMEDIUM WHITE CIRCLE;bBLACK CIRCLE
bSMALL WHITE CIRCLE;aMARRIAGE SYMBOL;aDIVORCE SYMBOL;aUNMARRIED PARTNERSHIP SYMBOL;aCOFFIN;aFUNERAL URN;aNEUTER;aCERES;aPALLAS
aJUNO;aVESTA;aCHIRON;aBLACK MOON LILITH;aSEXTILE;aSEMISEXTILE;aQUINCUNX;aSESQUIQUADRATE;aSOCCER BALL;aBASEBALL;aSQUARED KEY
aWHITE DRAUGHTS MAN;cKING;aBLACK DRAUGHTS MAN;cKING;aSNOWMAN WITHOUT SNOW;aSUN BEHIND CLOUD;aRAIN;aBLACK SNOWMAN
aTHUNDER CLOUD AND RAIN;aTURNED WHITE SHOGI PIECE;bBLACK SHOGI PIECE;aWHITE DIAMOND IN SQUARE;aCROSSING LANES;aDISABLED CAR
aOPHIUCHUS;aPICK;aCAR SLIDING;aHELMET WITH WHITE CROSS;aCIRCLED CROSSING LANES;aCHAINS;aNO ENTRY
aALTERNATE ONE-WAY LEFT WAY TRAFFIC;aBLACK TWO-WAY LEFT WAY TRAFFIC;aWHITE TWO-WAY LEFT WAY TRAFFIC;aBLACK LEFT LANE MERGE
aWHITE LEFT LANE MERGE;aDRIVE SLOW SIGN;aHEAVY WHITE DOWN-POINTING TRIANGLE;aLEFT CLOSED ENTRY;aSQUARED SALTIRE
aFALLING DIAGONAL IN WHITE CIRCLE IN BLACK SQUARE;aBLACK TRUCK;aRESTRICTED LEFT ENTRY-1;cENTRY-2;aASTRONOMICAL SYMBOL FOR URANUS
aHEAVY CIRCLE WITH STROKE AND TWO DOTS ABOVE;aPENTAGRAM;aRIGHT-HANDED INTERLACED PENTAGRAM;aLEFT-HANDED INTERLACED PENTAGRAM
aINVERTED PENTAGRAM;aBLACK CROSS ON SHIELD;aSHINTO SHRINE;aCHURCH;aCASTLE;aHISTORIC SITE;aGEAR WITHOUT HUB;bWITH HANDLES
aMAP SYMBOL FOR LIGHTHOUSE;aMOUNTAIN;aUMBRELLA ON GROUND;aFOUNTAIN;aFLAG IN HOLE;aFERRY;aSAILBOAT;aSQUARE FOUR CORNERS;aSKIER
aICE SKATE;aPERSON WITH BALL;aTENT;aJAPANESE BANK SYMBOL;aHEADSTONE GRAVEYARD SYMBOL;aFUEL PUMP;aCUP ON BLACK SQUARE
aWHITE FLAG WITH HORIZONTAL MIDDLE BLACK STRIPE;aBLACK SAFETY SCISSORS;aUPPER BLADE SCISSORS;aBLACK SCISSORS
aLOWER BLADE SCISSORS;aWHITE SCISSORS;bHEAVY CHECK MARK;aTELEPHONE LOCATION SIGN;aTAPE DRIVE;aAIRPLANE;aENVELOPE;aRAISED FIST
bHAND;aVICTORY HAND;aWRITING HAND;aLOWER RIGHT PENCIL;aPENCIL;aUPPER RIGHT PENCIL;aWHITE NIB;aBLACK NIB;aCHECK MARK
aHEAVY CHECK MARK;aMULTIPLICATION X;aHEAVY MULTIPLICATION X;aBALLOT X;aHEAVY BALLOT X;aOUTLINED GREEK CROSS;aHEAVY GREEK CROSS
aOPEN CENTRE CROSS;aHEAVY OPEN CENTRE CROSS;aLATIN CROSS;aSHADOWED WHITE LATIN CROSS;aOUTLINED LATIN CROSS;aMALTESE CROSS
aSTAR OF DAVID;aFOUR TEARDROP-SPOKED ASTERISK;bBALLOON-SPOKED ASTERISK;aHEAVY FOUR BALLOON-SPOKED ASTERISK
aFOUR CLUB-SPOKED ASTERISK;aBLACK FOUR POINTED STAR;aWHITE FOUR POINTED STAR;aSPARKLES;aSTRESS OUTLINED WHITE STAR
aCIRCLED WHITE STAR;aOPEN CENTRE BLACK STAR;aBLACK CENTRE WHITE STAR;aOUTLINED BLACK STAR;aHEAVY OUTLINED BLACK STAR
aPINWHEEL STAR;aSHADOWED WHITE STAR;aHEAVY ASTERISK;aOPEN CENTRE ASTERISK;aEIGHT SPOKED ASTERISK;bPOINTED BLACK STAR
cPINWHEEL STAR;aSIX POINTED BLACK STAR;aEIGHT POINTED RECTILINEAR BLACK STAR;aHEAVY EIGHT POINTED RECTILINEAR BLACK STAR
aTWELVE POINTED BLACK STAR;aSIXTEEN POINTED ASTERISK;aTEARDROP-SPOKED ASTERISK;aOPEN CENTRE TEARDROP-SPOKED ASTERISK
aHEAVY TEARDROP-SPOKED ASTERISK;aSIX PETALLED BLACK AND WHITE FLORETTE;aBLACK FLORETTE;aWHITE FLORETTE
aEIGHT PETALLED OUTLINED BLACK FLORETTE;aCIRCLED OPEN CENTRE EIGHT POINTED STAR;aHEAVY TEARDROP-SPOKED PINWHEEL ASTERISK
aSNOWFLAKE;aTIGHT TRIFOLIATE SNOWFLAKE;aHEAVY CHEVRON SNOWFLAKE;aSPARKLE;aHEAVY SPARKLE;aBALLOON-SPOKED ASTERISK
aEIGHT TEARDROP-SPOKED PROPELLER ASTERISK;aHEAVY EIGHT TEARDROP-SPOKED PROPELLER ASTERISK;aCROSS MARK;aSHADOWED WHITE CIRCLE
aNEGATIVE SQUARED CROSS MARK;aLOWER RIGHT DROP-SHADOWED WHITE SQUARE;aUPPER RIGHT DROP-SHADOWED WHITE SQUARE
aLOWER RIGHT SHADOWED WHITE SQUARE;aUPPER RIGHT SHADOWED WHITE SQUARE;aBLACK QUESTION MARK ORNAMENT
aWHITE QUESTION MARK ORNAMENT;bEXCLAMATION MARK ORNAMENT;aBLACK DIAMOND MINUS WHITE X;aHEAVY EXCLAMATION MARK SYMBOL
aLIGHT VERTICAL BAR;aMEDIUM VERTICAL BAR;aHEAVY VERTICAL BAR;bSINGLE TURNED COMMA QUOTATION MARK ORNAMENT
cCOMMA QUOTATION MARK ORNAMENT;bDOUBLE TURNED COMMA QUOTATION MARK ORNAMENT;cCOMMA QUOTATION MARK ORNAMENT
bLOW SINGLE COMMA QUOTATION MARK ORNAMENT;cDOUBLE COMMA QUOTATION MARK ORNAMENT;aCURVED STEM PARAGRAPH SIGN ORNAMENT
aHEAVY EXCLAMATION MARK ORNAMENT;bHEART EXCLAMATION MARK ORNAMENT;bBLACK HEART;aROTATED HEAVY BLACK HEART BULLET;aFLORAL HEART
aROTATED FLORAL HEART BULLET;aMEDIUM LEFT PARENTHESIS ORNAMENT;bRIGHT PARENTHESIS ORNAMENT;bFLATTENED LEFT PARENTHESIS ORNAMENT
cRIGHT PARENTHESIS ORNAMENT;bLEFT-POINTING ANGLE BRACKET ORNAMENT;bRIGHT-POINTING ANGLE BRACKET ORNAMENT
aHEAVY LEFT-POINTING ANGLE QUOTATION MARK ORNAMENT;bRIGHT-POINTING ANGLE QUOTATION MARK ORNAMENT
bLEFT-POINTING ANGLE BRACKET ORNAMENT;bRIGHT-POINTING ANGLE BRACKET ORNAMENT;aLIGHT LEFT TORTOISE SHELL BRACKET ORNAMENT
bRIGHT TORTOISE SHELL BRACKET ORNAMENT;aMEDIUM LEFT CURLY BRACKET ORNAMENT;bRIGHT CURLY BRACKET ORNAMENT
aDINGBAT NEGATIVE CIRCLED DIGIT ONE;eTWO;eTHREE;eFOUR;eFIVE;eSIX;eSEVEN;eEIGHT;eNINE;dNUMBER TEN;bCIRCLED SANS-SERIF DIGIT ONE
eTWO;eTHREE;eFOUR;eFIVE;eSIX;eSEVEN;eEIGHT;eNINE;dNUMBER TEN;bNEGATIVE CIRCLED SANS-SERIF DIGIT ONE;fTWO;fTHREE;fFOUR;fFIVE;fSIX
fSEVEN;fEIGHT;fNINE;eNUMBER TEN;aHEAVY WIDE-HEADED RIGHTWARDS ARROW;bPLUS SIGN;bMINUS SIGN;bDIVISION SIGN;bSOUTH EAST ARROW
bRIGHTWARDS ARROW;bNORTH EAST ARROW;aDRAFTING POINT RIGHTWARDS ARROW;aHEAVY ROUND-TIPPED RIGHTWARDS ARROW
aTRIANGLE-HEADED RIGHTWARDS ARROW;aHEAVY TRIANGLE-HEADED RIGHTWARDS ARROW;aDASHED TRIANGLE-HEADED RIGHTWARDS ARROW
aHEAVY DASHED TRIANGLE-HEADED RIGHTWARDS ARROW;aBLACK RIGHTWARDS ARROW;aTHREE-D TOP-LIGHTED RIGHTWARDS ARROWHEAD
bBOTTOM-LIGHTED RIGHTWARDS ARROWHEAD;aBLACK RIGHTWARDS ARROWHEAD;aHEAVY BLACK CURVED DOWNWARDS AND RIGHTWARDS ARROW
dUPWARDS AND RIGHTWARDS ARROW;aSQUAT BLACK RIGHTWARDS ARROW;aHEAVY CONCAVE-POINTED BLACK RIGHTWARDS ARROW
aRIGHT-SHADED WHITE RIGHTWARDS ARROW;aLEFT-SHADED WHITE RIGHTWARDS ARROW;aBACK-TILTED SHADOWED WHITE RIGHTWARDS ARROW
aFRONT-TILTED SHADOWED WHITE RIGHTWARDS ARROW;aHEAVY LOWER RIGHT-SHADOWED WHITE RIGHTWARDS ARROW
bUPPER RIGHT-SHADOWED WHITE RIGHTWARDS ARROW;aNOTCHED LOWER RIGHT-SHADOWED WHITE RIGHTWARDS ARROW;aCURLY LOOP
aNOTCHED UPPER RIGHT-SHADOWED WHITE RIGHTWARDS ARROW;aCIRCLED HEAVY WHITE RIGHTWARDS ARROW;aWHITE-FEATHERED RIGHTWARDS ARROW
aBLACK-FEATHERED SOUTH EAST ARROW;bRIGHTWARDS ARROW;bNORTH EAST ARROW;aHEAVY BLACK-FEATHERED SOUTH EAST ARROW;cRIGHTWARDS ARROW
cNORTH EAST ARROW;aTEARDROP-BARBED RIGHTWARDS ARROW;aHEAVY TEARDROP-SHANKED RIGHTWARDS ARROW;aWEDGE-TAILED RIGHTWARDS ARROW
aHEAVY WEDGE-TAILED RIGHTWARDS ARROW;aOPEN-OUTLINED RIGHTWARDS ARROW;aDOUBLE CURLY LOOP;aTHREE DIMENSIONAL ANGLE
aWHITE TRIANGLE CONTAINING SMALL WHITE TRIANGLE;aPERPENDICULAR;aOPEN SUBSET;bSUPERSET;aLEFT S-SHAPED BAG DELIMITER
aRIGHT S-SHAPED BAG DELIMITER;aOR WITH DOT INSIDE;aREVERSE SOLIDUS PRECEDING SUBSET;aSUPERSET PRECEDING SOLIDUS
aVERTICAL BAR WITH HORIZONTAL STROKE;aMATHEMATICAL RISING DIAGONAL;aLONG DIVISION;aMATHEMATICAL FALLING DIAGONAL
aSQUARED LOGICAL AND;cOR;aWHITE DIAMOND WITH CENTRED DOT;aAND WITH DOT;aELEMENT OF OPENING UPWARDS;aLOWER RIGHT CORNER WITH DOT
aUPPER LEFT CORNER WITH DOT;aLEFT OUTER JOIN;aRIGHT OUTER JOIN;aFULL OUTER JOIN;aLARGE UP TACK;bDOWN TACK
aLEFT AND RIGHT DOUBLE TURNSTILE;dTACK;bMULTIMAP;aLONG RIGHT TACK;bLEFT TACK;aUP TACK WITH CIRCLE ABOVE
aLOZENGE DIVIDED BY HORIZONTAL RULE;aWHITE CONCAVE-SIDED DIAMOND;dWITH LEFTWARDS TICK;eRIGHTWARDS TICK
bSQUARE WITH LEFTWARDS TICK;dRIGHTWARDS TICK;aMATHEMATICAL LEFT WHITE SQUARE BRACKET;bRIGHT WHITE SQUARE BRACKET
bLEFT ANGLE BRACKET;bRIGHT ANGLE BRACKET;bLEFT DOUBLE ANGLE BRACKET;bRIGHT DOUBLE ANGLE BRACKET
bLEFT WHITE TORTOISE SHELL BRACKET;bRIGHT WHITE TORTOISE SHELL BRACKET;bLEFT FLATTENED PARENTHESIS;bRIGHT FLATTENED PARENTHESIS
aUPWARDS QUADRUPLE ARROW;aDOWNWARDS QUADRUPLE ARROW;aANTICLOCKWISE GAPPED CIRCLE ARROW;aCLOCKWISE GAPPED CIRCLE ARROW
aRIGHT ARROW WITH CIRCLED PLUS;aLONG LEFTWARDS ARROW;bRIGHTWARDS ARROW;bLEFT RIGHT ARROW;bLEFTWARDS DOUBLE ARROW
bRIGHTWARDS DOUBLE ARROW;bLEFT RIGHT DOUBLE ARROW;bLEFTWARDS ARROW FROM BAR;bRIGHTWARDS ARROW FROM BAR
bLEFTWARDS DOUBLE ARROW FROM BAR;bRIGHTWARDS DOUBLE ARROW FROM BAR;cSQUIGGLE ARROW;aBRAILLE PATTERN BLANK;cDOTS-1;cDOTS-2
cDOTS-12;cDOTS-3;cDOTS-13;cDOTS-23;cDOTS-123;cDOTS-4;cDOTS-14;cDOTS-24;cDOTS-124;cDOTS-34;cDOTS-134;cDOTS-234;cDOTS-1234;cDOTS-5
cDOTS-15;cDOTS-25;cDOTS-125;cDOTS-35;cDOTS-135;cDOTS-235;cDOTS-1235;cDOTS-45;cDOTS-145;cDOTS-245;cDOTS-1245;cDOTS-345;cDOTS-1345
cDOTS-2345;cDOTS-12345;cDOTS-6;cDOTS-16;cDOTS-26;cDOTS-126;cDOTS-36;cDOTS-136;cDOTS-236;cDOTS-1236;cDOTS-46;cDOTS-146;cDOTS-246
cDOTS-1246;cDOTS-346;cDOTS-1346;cDOTS-2346;cDOTS-12346;cDOTS-56;cDOTS-156;cDOTS-256;cDOTS-1256;cDOTS-356;cDOTS-1356;cDOTS-2356
cDOTS-12356;cDOTS-456;cDOTS-1456;cDOTS-2456;cDOTS-12456;cDOTS-3456;cDOTS-13456;cDOTS-23456;cDOTS-123456;cDOTS-7;cDOTS-17
cDOTS-27;cDOTS-127;cDOTS-37;cDOTS-137;cDOTS-237;cDOTS-1237;cDOTS-47;cDOTS-147;cDOTS-247;cDOTS-1247;cDOTS-347;cDOTS-1347
cDOTS-2347;cDOTS-12347;cDOTS-57;cDOTS-157;cDOTS-257;cDOTS-1257;cDOTS-357;cDOTS-1357;cDOTS-2357;cDOTS-12357;cDOTS-457;cDOTS-1457
cDOTS-2457;cDOTS-12457;cDOTS-3457;cDOTS-13457;cDOTS-23457;cDOTS-123457;cDOTS-67;cDOTS-167;cDOTS-267;cDOTS-1267;cDOTS-367
cDOTS-1367;cDOTS-2367;cDOTS-12367;cDOTS-467;cDOTS-1467;cDOTS-2467;cDOTS-12467;cDOTS-3467;cDOTS-13467;cDOTS-23467;cDOTS-123467
cDOTS-567;cDOTS-1567;cDOTS-2567;cDOTS-12567;cDOTS-3567;cDOTS-13567;cDOTS-23567;cDOTS-123567;cDOTS-4567;cDOTS-14567;cDOTS-24567
cDOTS-124567;cDOTS-34567;cDOTS-134567;cDOTS-234567;cDOTS-1234567;cDOTS-8;cDOTS-18;cDOTS-28;cDOTS-128;cDOTS-38;cDOTS-138
cDOTS-238;cDOTS-1238;cDOTS-48;cDOTS-148;cDOTS-248;cDOTS-1248;cDOTS-348;cDOTS-1348;cDOTS-2348;cDOTS-12348;cDOTS-58;cDOTS-158
cDOTS-258;cDOTS-1258;cDOTS-358;cDOTS-1358;cDOTS-2358;cDOTS-12358;cDOTS-458;cDOTS-1458;cDOTS-2458;cDOTS-12458;cDOTS-3458
cDOTS-13458;cDOTS-23458;cDOTS-123458;cDOTS-68;cDOTS-168;cDOTS-268;cDOTS-1268;cDOTS-368;cDOTS-1368;cDOTS-2368;cDOTS-12368
cDOTS-468;cDOTS-1468;cDOTS-2468;cDOTS-12468;cDOTS-3468;cDOTS-13468;cDOTS-23468;cDOTS-123468;cDOTS-568;cDOTS-1568;cDOTS-2568
cDOTS-12568;cDOTS-3568;cDOTS-13568;cDOTS-23568;cDOTS-123568;cDOTS-4568;cDOTS-14568;cDOTS-24568;cDOTS-124568;cDOTS-34568
cDOTS-134568;cDOTS-234568;cDOTS-1234568;cDOTS-78;cDOTS-178;cDOTS-278;cDOTS-1278;cDOTS-378;cDOTS-1378;cDOTS-2378;cDOTS-12378
cDOTS-478;cDOTS-1478;cDOTS-2478;cDOTS-12478;cDOTS-3478;cDOTS-13478;cDOTS-23478;cDOTS-123478;cDOTS-578;cDOTS-1578;cDOTS-2578
cDOTS-12578;cDOTS-3578;cDOTS-13578;cDOTS-23578;cDOTS-123578;cDOTS-4578;cDOTS-14578;cDOTS-24578;cDOTS-124578;cDOTS-34578
cDOTS-134578;cDOTS-234578;cDOTS-1234578;cDOTS-678;cDOTS-1678;cDOTS-2678;cDOTS-12678;cDOTS-3678;cDOTS-13678;cDOTS-23678
cDOTS-123678;cDOTS-4678;cDOTS-14678;cDOTS-24678;cDOTS-124678;cDOTS-34678;cDOTS-134678;cDOTS-234678;cDOTS-1234678;cDOTS-5678
cDOTS-15678;cDOTS-25678;cDOTS-125678;cDOTS-35678;cDOTS-135678;cDOTS-235678;cDOTS-1235678;cDOTS-45678;cDOTS-145678;cDOTS-245678
cDOTS-1245678;cDOTS-345678;cDOTS-1345678;cDOTS-2345678;cDOTS-12345678;aRIGHTWARDS TWO-HEADED ARROW WITH VERTICAL STROKE
eDOUBLE VERTICAL STROKE;aLEFTWARDS DOUBLE ARROW WITH VERTICAL STROKE;aRIGHTWARDS DOUBLE ARROW WITH VERTICAL STROKE
aLEFT RIGHT DOUBLE ARROW WITH VERTICAL STROKE;aRIGHTWARDS TWO-HEADED ARROW FROM BAR;aLEFTWARDS DOUBLE ARROW FROM BAR
aRIGHTWARDS DOUBLE ARROW FROM BAR;aDOWNWARDS ARROW WITH HORIZONTAL STROKE;aUPWARDS ARROW WITH HORIZONTAL STROKE;bTRIPLE ARROW
aDOWNWARDS TRIPLE ARROW;aLEFTWARDS DOUBLE DASH ARROW;aRIGHTWARDS DOUBLE DASH ARROW;aLEFTWARDS TRIPLE DASH ARROW
aRIGHTWARDS TRIPLE DASH ARROW;bTWO-HEADED TRIPLE DASH ARROW;bARROW WITH DOTTED STEM;aUPWARDS ARROW TO BAR
aDOWNWARDS ARROW TO BAR;aRIGHTWARDS ARROW WITH TAIL WITH VERTICAL STROKE;fDOUBLE VERTICAL STROKE;bTWO-HEADED ARROW WITH TAIL
fWITH VERTICAL STROKE;gDOUBLE VERTICAL STROKE;aLEFTWARDS ARROW-TAIL;aRIGHTWARDS ARROW-TAIL;aLEFTWARDS DOUBLE ARROW-TAIL
aRIGHTWARDS DOUBLE ARROW-TAIL;aLEFTWARDS ARROW TO BLACK DIAMOND;aRIGHTWARDS ARROW TO BLACK DIAMOND
aLEFTWARDS ARROW FROM BAR TO BLACK DIAMOND;aRIGHTWARDS ARROW FROM BAR TO BLACK DIAMOND;aNORTH WEST AND SOUTH EAST ARROW
bEAST AND SOUTH WEST ARROW;bWEST ARROW WITH HOOK;bEAST ARROW WITH HOOK;aSOUTH EAST ARROW WITH HOOK;bWEST ARROW WITH HOOK
aNORTH WEST ARROW AND NORTH EAST ARROW;bEAST ARROW AND SOUTH EAST ARROW;aSOUTH EAST ARROW AND SOUTH WEST ARROW
bWEST ARROW AND NORTH WEST ARROW;aRISING DIAGONAL CROSSING FALLING DIAGONAL;aFALLING DIAGONAL CROSSING RISING DIAGONAL
aSOUTH EAST ARROW CROSSING NORTH EAST ARROW;aNORTH EAST ARROW CROSSING SOUTH EAST ARROW
aFALLING DIAGONAL CROSSING NORTH EAST ARROW;aRISING DIAGONAL CROSSING SOUTH EAST ARROW
aNORTH EAST ARROW CROSSING NORTH WEST ARROW;bWEST ARROW CROSSING NORTH EAST ARROW;aWAVE ARROW POINTING DIRECTLY RIGHT
aARROW POINTING RIGHTWARDS THEN CURVING UPWARDS;fDOWNWARDS;cDOWNWARDS THEN CURVING LEFTWARDS;fRIGHTWARDS
aRIGHT-SIDE ARC CLOCKWISE ARROW;aLEFT-SIDE ARC ANTICLOCKWISE ARROW;aTOP ARC ANTICLOCKWISE ARROW;aBOTTOM ARC ANTICLOCKWISE ARROW
aTOP ARC CLOCKWISE ARROW WITH MINUS;cANTICLOCKWISE ARROW WITH PLUS;aLOWER RIGHT SEMICIRCULAR CLOCKWISE ARROW
bLEFT SEMICIRCULAR ANTICLOCKWISE ARROW;aANTICLOCKWISE CLOSED CIRCLE ARROW;aCLOCKWISE CLOSED CIRCLE ARROW
aRIGHTWARDS ARROW ABOVE SHORT LEFTWARDS ARROW;aLEFTWARDS ARROW ABOVE SHORT RIGHTWARDS ARROW
aSHORT RIGHTWARDS ARROW ABOVE LEFTWARDS ARROW;aRIGHTWARDS ARROW WITH PLUS BELOW;aLEFTWARDS ARROW WITH PLUS BELOW
aRIGHTWARDS ARROW THROUGH X;aLEFT RIGHT ARROW THROUGH SMALL CIRCLE;aUPWARDS TWO-HEADED ARROW FROM SMALL CIRCLE
aLEFT BARB UP RIGHT BARB DOWN HARPOON;cDOWN RIGHT BARB UP HARPOON;aUP BARB RIGHT DOWN BARB LEFT HARPOON
cLEFT DOWN BARB RIGHT HARPOON;aLEFT BARB UP RIGHT BARB UP HARPOON;aUP BARB RIGHT DOWN BARB RIGHT HARPOON
aLEFT BARB DOWN RIGHT BARB DOWN HARPOON;aUP BARB LEFT DOWN BARB LEFT HARPOON;aLEFTWARDS HARPOON WITH BARB UP TO BAR
aRIGHTWARDS HARPOON WITH BARB UP TO BAR;aUPWARDS HARPOON WITH BARB RIGHT TO BAR;aDOWNWARDS HARPOON WITH BARB RIGHT TO BAR
aLEFTWARDS HARPOON WITH BARB DOWN TO BAR;aRIGHTWARDS HARPOON WITH BARB DOWN TO BAR;aUPWARDS HARPOON WITH BARB LEFT TO BAR
aDOWNWARDS HARPOON WITH BARB LEFT TO BAR;aLEFTWARDS HARPOON WITH BARB UP FROM BAR;aRIGHTWARDS HARPOON WITH BARB UP FROM BAR
aUPWARDS HARPOON WITH BARB RIGHT FROM BAR;aDOWNWARDS HARPOON WITH BARB RIGHT FROM BAR;aLEFTWARDS HARPOON WITH BARB DOWN FROM BAR
aRIGHTWARDS HARPOON WITH BARB DOWN FROM BAR;aUPWARDS HARPOON WITH BARB LEFT FROM BAR;aDOWNWARDS HARPOON WITH BARB LEFT FROM BAR
aLEFTWARDS HARPOON WITH BARB UP ABOVE LEFTWARDS HARPOON WITH BARB DOWN
aUPWARDS HARPOON WITH BARB LEFT BESIDE UPWARDS HARPOON WITH BARB RIGHT
aRIGHTWARDS HARPOON WITH BARB UP ABOVE RIGHTWARDS HARPOON WITH BARB DOWN
aDOWNWARDS HARPOON WITH BARB LEFT BESIDE DOWNWARDS HARPOON WITH BARB RIGHT
aLEFTWARDS HARPOON WITH BARB UP ABOVE RIGHTWARDS HARPOON WITH BARB UP;eDOWN ABOVE RIGHTWARDS HARPOON WITH BARB DOWN
aRIGHTWARDS HARPOON WITH BARB UP ABOVE LEFTWARDS HARPOON WITH BARB UP;eDOWN ABOVE LEFTWARDS HARPOON WITH BARB DOWN
aLEFTWARDS HARPOON WITH BARB UP ABOVE LONG DASH;eDOWN BELOW LONG DASH;aRIGHTWARDS HARPOON WITH BARB UP ABOVE LONG DASH
eDOWN BELOW LONG DASH;aUPWARDS HARPOON WITH BARB LEFT BESIDE DOWNWARDS HARPOON WITH BARB RIGHT
aDOWNWARDS HARPOON WITH BARB LEFT BESIDE UPWARDS HARPOON WITH BARB RIGHT;aRIGHT DOUBLE ARROW WITH ROUNDED HEAD
aEQUALS SIGN ABOVE RIGHTWARDS ARROW;aTILDE OPERATOR ABOVE RIGHTWARDS ARROW;aLEFTWARDS ARROW ABOVE TILDE OPERATOR
aRIGHTWARDS ARROW ABOVE TILDE OPERATOR;dALMOST EQUAL TO;aLESS-THAN ABOVE LEFTWARDS ARROW;aLEFTWARDS ARROW THROUGH LESS-THAN
aGREATER-THAN ABOVE RIGHTWARDS ARROW;aSUBSET ABOVE RIGHTWARDS ARROW;aLEFTWARDS ARROW THROUGH SUBSET
aSUPERSET ABOVE LEFTWARDS ARROW;aLEFT FISH TAIL;aRIGHT FISH TAIL;aUP FISH TAIL;aDOWN FISH TAIL;aTRIPLE VERTICAL BAR DELIMITER
aZ NOTATION SPOT;cTYPE COLON;aLEFT WHITE CURLY BRACKET;aRIGHT WHITE CURLY BRACKET;aLEFT WHITE PARENTHESIS
aRIGHT WHITE PARENTHESIS;aZ NOTATION LEFT IMAGE BRACKET;cRIGHT IMAGE BRACKET;cLEFT BINDING BRACKET;cRIGHT BINDING BRACKET
aLEFT SQUARE BRACKET WITH UNDERBAR;aRIGHT SQUARE BRACKET WITH UNDERBAR;aLEFT SQUARE BRACKET WITH TICK IN TOP CORNER
aRIGHT SQUARE BRACKET WITH TICK IN BOTTOM CORNER;aLEFT SQUARE BRACKET WITH TICK IN BOTTOM CORNER
aRIGHT SQUARE BRACKET WITH TICK IN TOP CORNER;aLEFT ANGLE BRACKET WITH DOT;aRIGHT ANGLE BRACKET WITH DOT
aLEFT ARC LESS-THAN BRACKET;aRIGHT ARC GREATER-THAN BRACKET;aDOUBLE LEFT ARC GREATER-THAN BRACKET;bRIGHT ARC LESS-THAN BRACKET
aLEFT BLACK TORTOISE SHELL BRACKET;aRIGHT BLACK TORTOISE SHELL BRACKET;aDOTTED FENCE;aVERTICAL ZIGZAG LINE
aMEASURED ANGLE OPENING LEFT;aRIGHT ANGLE VARIANT WITH SQUARE;aMEASURED RIGHT ANGLE WITH DOT;aANGLE WITH S INSIDE;aACUTE ANGLE
aSPHERICAL ANGLE OPENING LEFT;dUP;aTURNED ANGLE;aREVERSED ANGLE;aANGLE WITH UNDERBAR;aREVERSED ANGLE WITH UNDERBAR
aOBLIQUE ANGLE OPENING UP;dDOWN;aMEASURED ANGLE WITH OPEN ARM ENDING IN ARROW POINTING UP AND RIGHT;lLEFT;jDOWN AND RIGHT;lLEFT
jRIGHT AND UP;jLEFT AND UP;jRIGHT AND DOWN;jLEFT AND DOWN;aREVERSED EMPTY SET;aEMPTY SET WITH OVERBAR;dSMALL CIRCLE ABOVE
dRIGHT ARROW ABOVE;dLEFT ARROW ABOVE;aCIRCLE WITH HORIZONTAL BAR;aCIRCLED VERTICAL BAR;bPARALLEL;bREVERSE SOLIDUS;bPERPENDICULAR
aCIRCLE DIVIDED BY HORIZONTAL BAR AND TOP HALF DIVIDED BY VERTICAL BAR;bWITH SUPERIMPOSED X
aCIRCLED ANTICLOCKWISE-ROTATED DIVISION SIGN;aUP ARROW THROUGH CIRCLE;aCIRCLED WHITE BULLET;bBULLET;bLESS-THAN;bGREATER-THAN
aCIRCLE WITH SMALL CIRCLE TO THE RIGHT;cTWO HORIZONTAL STROKES TO THE RIGHT;aSQUARED RISING DIAGONAL SLASH
bFALLING DIAGONAL SLASH;bASTERISK;bSMALL CIRCLE;bSQUARE;aTWO JOINED SQUARES;aTRIANGLE WITH DOT ABOVE;cUNDERBAR;aS IN TRIANGLE
aTRIANGLE WITH SERIFS AT BOTTOM;aRIGHT TRIANGLE ABOVE LEFT TRIANGLE;aLEFT TRIANGLE BESIDE VERTICAL BAR
aVERTICAL BAR BESIDE RIGHT TRIANGLE;aBOWTIE WITH LEFT HALF BLACK;cRIGHT HALF BLACK;aBLACK BOWTIE;aTIMES WITH LEFT HALF BLACK
cRIGHT HALF BLACK;aWHITE HOURGLASS;aBLACK HOURGLASS;aLEFT WIGGLY FENCE;aRIGHT WIGGLY FENCE;aLEFT DOUBLE WIGGLY FENCE
aRIGHT DOUBLE WIGGLY FENCE;aINCOMPLETE INFINITY;aTIE OVER INFINITY;aINFINITY NEGATED WITH VERTICAL BAR;aDOUBLE-ENDED MULTIMAP
aSQUARE WITH CONTOURED OUTLINE;aINCREASES AS;aSHUFFLE PRODUCT;aEQUALS SIGN AND SLANTED PARALLEL;fWITH TILDE ABOVE
aIDENTICAL TO AND SLANTED PARALLEL;aGLEICH STARK;aTHERMODYNAMIC;aDOWN-POINTING TRIANGLE WITH LEFT HALF BLACK;dRIGHT HALF BLACK
aBLACK DIAMOND WITH DOWN ARROW;bLOZENGE;aWHITE CIRCLE WITH DOWN ARROW;aBLACK CIRCLE WITH DOWN ARROW;aERROR-BARRED WHITE SQUARE
bBLACK SQUARE;bWHITE DIAMOND;bBLACK DIAMOND;bWHITE CIRCLE;bBLACK CIRCLE;aRULE-DELAYED;aREVERSE SOLIDUS OPERATOR
aSOLIDUS WITH OVERBAR;aREVERSE SOLIDUS WITH HORIZONTAL STROKE;aBIG SOLIDUS;bREVERSE SOLIDUS;aDOUBLE PLUS;aTRIPLE PLUS
aLEFT-POINTING CURVED ANGLE BRACKET;aRIGHT-POINTING CURVED ANGLE BRACKET;aTINY;aMINY;aN-ARY CIRCLED DOT OPERATOR;cPLUS OPERATOR
cTIMES OPERATOR;bUNION OPERATOR WITH DOT;ePLUS;bSQUARE INTERSECTION OPERATOR;cUNION OPERATOR;aTWO LOGICAL AND OPERATOR
cOR OPERATOR;aN-ARY TIMES OPERATOR;aMODULO TWO SUM;aSUMMATION WITH INTEGRAL;aQUADRUPLE INTEGRAL OPERATOR;aFINITE PART INTEGRAL
aINTEGRAL WITH DOUBLE STROKE;bAVERAGE WITH SLASH;aCIRCULATION FUNCTION;aANTICLOCKWISE INTEGRATION
aLINE INTEGRATION WITH RECTANGULAR PATH AROUND POLE;dSEMICIRCULAR PATH AROUND POLE;cNOT INCLUDING THE POLE
aINTEGRAL AROUND A POINT OPERATOR;aQUATERNION INTEGRAL OPERATOR;aINTEGRAL WITH LEFTWARDS ARROW WITH HOOK;cTIMES SIGN
cINTERSECTION;cUNION;cOVERBAR;cUNDERBAR;aJOIN;aLARGE LEFT TRIANGLE OPERATOR;aZ NOTATION SCHEMA COMPOSITION;dPIPING;dPROJECTION
aPLUS SIGN WITH SMALL CIRCLE ABOVE;dCIRCUMFLEX ACCENT ABOVE;dTILDE ABOVE;dDOT BELOW;dTILDE BELOW;dSUBSCRIPT TWO;dBLACK TRIANGLE
aMINUS SIGN WITH COMMA ABOVE;dDOT BELOW;dFALLING DOTS;dRISING DOTS;aPLUS SIGN IN LEFT HALF CIRCLE;dRIGHT HALF CIRCLE
aVECTOR OR CROSS PRODUCT;aMULTIPLICATION SIGN WITH DOT ABOVE;dUNDERBAR;aSEMIDIRECT PRODUCT WITH BOTTOM CLOSED;aSMASH PRODUCT
aMULTIPLICATION SIGN IN LEFT HALF CIRCLE;dRIGHT HALF CIRCLE;aCIRCLED MULTIPLICATION SIGN WITH CIRCUMFLEX ACCENT
aMULTIPLICATION SIGN IN DOUBLE CIRCLE;aCIRCLED DIVISION SIGN;aPLUS SIGN IN TRIANGLE;aMINUS SIGN IN TRIANGLE
aMULTIPLICATION SIGN IN TRIANGLE;aINTERIOR PRODUCT;aRIGHTHAND INTERIOR PRODUCT;aZ NOTATION RELATIONAL COMPOSITION
aAMALGAMATION OR COPRODUCT;aINTERSECTION WITH DOT;aUNION WITH MINUS SIGN;cOVERBAR;aINTERSECTION WITH OVERBAR;cLOGICAL AND
aUNION WITH LOGICAL OR;bABOVE INTERSECTION;aINTERSECTION ABOVE UNION;aUNION ABOVE BAR ABOVE INTERSECTION
aINTERSECTION ABOVE BAR ABOVE UNION;aUNION BESIDE AND JOINED WITH UNION;aINTERSECTION BESIDE AND JOINED WITH INTERSECTION
aCLOSED UNION WITH SERIFS;bINTERSECTION WITH SERIFS;aDOUBLE SQUARE INTERSECTION;cUNION
aCLOSED UNION WITH SERIFS AND SMASH PRODUCT;aLOGICAL AND WITH DOT ABOVE;bOR WITH DOT ABOVE;aDOUBLE LOGICAL AND;cOR
aTWO INTERSECTING LOGICAL AND;dOR;aSLOPING LARGE OR;cAND;aLOGICAL OR OVERLAPPING LOGICAL AND;bAND WITH MIDDLE STEM
bOR WITH MIDDLE STEM;bAND WITH HORIZONTAL DASH;bOR WITH HORIZONTAL DASH;bAND WITH DOUBLE OVERBAR;dUNDERBAR;dDOUBLE UNDERBAR
aSMALL VEE WITH UNDERBAR;aLOGICAL OR WITH DOUBLE OVERBAR;eUNDERBAR;aZ NOTATION DOMAIN ANTIRESTRICTION;cRANGE ANTIRESTRICTION
aEQUALS SIGN WITH DOT BELOW;aIDENTICAL WITH DOT ABOVE;aTRIPLE HORIZONTAL BAR WITH DOUBLE VERTICAL STROKE;eTRIPLE VERTICAL STROKE
aTILDE OPERATOR WITH DOT ABOVE;dRISING DOTS;aSIMILAR MINUS SIMILAR;aCONGRUENT WITH DOT ABOVE;aEQUALS WITH ASTERISK
aALMOST EQUAL TO WITH CIRCUMFLEX ACCENT;aAPPROXIMATELY EQUAL OR EQUAL TO;aEQUALS SIGN ABOVE PLUS SIGN
aPLUS SIGN ABOVE EQUALS SIGN;aEQUALS SIGN ABOVE TILDE OPERATOR;aDOUBLE COLON EQUAL;aTWO CONSECUTIVE EQUALS SIGNS
aTHREE CONSECUTIVE EQUALS SIGNS;aEQUALS SIGN WITH TWO DOTS ABOVE AND TWO DOTS BELOW;aEQUIVALENT WITH FOUR DOTS ABOVE
aLESS-THAN WITH CIRCLE INSIDE;aGREATER-THAN WITH CIRCLE INSIDE;aLESS-THAN WITH QUESTION MARK ABOVE
aGREATER-THAN WITH QUESTION MARK ABOVE;aLESS-THAN OR SLANTED EQUAL TO;aGREATER-THAN OR SLANTED EQUAL TO
aLESS-THAN OR SLANTED EQUAL TO WITH DOT INSIDE;aGREATER-THAN OR SLANTED EQUAL TO WITH DOT INSIDE
aLESS-THAN OR SLANTED EQUAL TO WITH DOT ABOVE;aGREATER-THAN OR SLANTED EQUAL TO WITH DOT ABOVE
aLESS-THAN OR SLANTED EQUAL TO WITH DOT ABOVE RIGHT;aGREATER-THAN OR SLANTED EQUAL TO WITH DOT ABOVE LEFT
aLESS-THAN OR APPROXIMATE;aGREATER-THAN OR APPROXIMATE;aLESS-THAN AND SINGLE-LINE NOT EQUAL TO
aGREATER-THAN AND SINGLE-LINE NOT EQUAL TO;aLESS-THAN AND NOT APPROXIMATE;aGREATER-THAN AND NOT APPROXIMATE
aLESS-THAN ABOVE DOUBLE-LINE EQUAL ABOVE GREATER-THAN;aGREATER-THAN ABOVE DOUBLE-LINE EQUAL ABOVE LESS-THAN
aLESS-THAN ABOVE SIMILAR OR EQUAL;aGREATER-THAN ABOVE SIMILAR OR EQUAL;aLESS-THAN ABOVE SIMILAR ABOVE GREATER-THAN
aGREATER-THAN ABOVE SIMILAR ABOVE LESS-THAN;aLESS-THAN ABOVE GREATER-THAN ABOVE DOUBLE-LINE EQUAL
aGREATER-THAN ABOVE LESS-THAN ABOVE DOUBLE-LINE EQUAL;aLESS-THAN ABOVE SLANTED EQUAL ABOVE GREATER-THAN ABOVE SLANTED EQUAL
aGREATER-THAN ABOVE SLANTED EQUAL ABOVE LESS-THAN ABOVE SLANTED EQUAL;aSLANTED EQUAL TO OR LESS-THAN;eGREATER-THAN
eLESS-THAN WITH DOT INSIDE;eGREATER-THAN WITH DOT INSIDE;aDOUBLE-LINE EQUAL TO OR LESS-THAN;eGREATER-THAN
bSLANTED EQUAL TO OR LESS-THAN;fGREATER-THAN;aSIMILAR OR LESS-THAN;cGREATER-THAN;bABOVE LESS-THAN ABOVE EQUALS SIGN
cGREATER-THAN ABOVE EQUALS SIGN;aDOUBLE NESTED LESS-THAN;cGREATER-THAN;cLESS-THAN WITH UNDERBAR
aGREATER-THAN OVERLAPPING LESS-THAN;bBESIDE LESS-THAN;aLESS-THAN CLOSED BY CURVE;aGREATER-THAN CLOSED BY CURVE
aLESS-THAN CLOSED BY CURVE ABOVE SLANTED EQUAL;aGREATER-THAN CLOSED BY CURVE ABOVE SLANTED EQUAL;aSMALLER THAN;aLARGER THAN
aSMALLER THAN OR EQUAL TO;aLARGER THAN OR EQUAL TO;aEQUALS SIGN WITH BUMPY ABOVE;aPRECEDES ABOVE SINGLE-LINE EQUALS SIGN
aSUCCEEDS ABOVE SINGLE-LINE EQUALS SIGN;aPRECEDES ABOVE SINGLE-LINE NOT EQUAL TO;aSUCCEEDS ABOVE SINGLE-LINE NOT EQUAL TO
aPRECEDES ABOVE EQUALS SIGN;aSUCCEEDS ABOVE EQUALS SIGN;aPRECEDES ABOVE NOT EQUAL TO;aSUCCEEDS ABOVE NOT EQUAL TO
aPRECEDES ABOVE ALMOST EQUAL TO;aSUCCEEDS ABOVE ALMOST EQUAL TO;aPRECEDES ABOVE NOT ALMOST EQUAL TO
aSUCCEEDS ABOVE NOT ALMOST EQUAL TO;aDOUBLE PRECEDES;bSUCCEEDS;aSUBSET WITH DOT;aSUPERSET WITH DOT;aSUBSET WITH PLUS SIGN BELOW
aSUPERSET WITH PLUS SIGN BELOW;aSUBSET WITH MULTIPLICATION SIGN BELOW;aSUPERSET WITH MULTIPLICATION SIGN BELOW
aSUBSET OF OR EQUAL TO WITH DOT ABOVE;aSUPERSET OF OR EQUAL TO WITH DOT ABOVE;aSUBSET OF ABOVE EQUALS SIGN
aSUPERSET OF ABOVE EQUALS SIGN;aSUBSET OF ABOVE TILDE OPERATOR;aSUPERSET OF ABOVE TILDE OPERATOR
aSUBSET OF ABOVE ALMOST EQUAL TO;aSUPERSET OF ABOVE ALMOST EQUAL TO;aSUBSET OF ABOVE NOT EQUAL TO
aSUPERSET OF ABOVE NOT EQUAL TO;aSQUARE LEFT OPEN BOX OPERATOR;bRIGHT OPEN BOX OPERATOR;aCLOSED SUBSET;bSUPERSET
bSUBSET OR EQUAL TO;bSUPERSET OR EQUAL TO;aSUBSET ABOVE SUPERSET;aSUPERSET ABOVE SUBSET;aSUBSET ABOVE SUBSET
aSUPERSET ABOVE SUPERSET;bBESIDE SUBSET;cAND JOINED BY DASH WITH SUBSET;aELEMENT OF OPENING DOWNWARDS;aPITCHFORK WITH TEE TOP
aTRANSVERSAL INTERSECTION;aFORKING;aNONFORKING;aSHORT LEFT TACK;bDOWN TACK;bUP TACK;aPERPENDICULAR WITH S
aVERTICAL BAR TRIPLE RIGHT TURNSTILE;aDOUBLE VERTICAL BAR LEFT TURNSTILE;aVERTICAL BAR DOUBLE LEFT TURNSTILE
aDOUBLE VERTICAL BAR DOUBLE LEFT TURNSTILE;aLONG DASH FROM LEFT MEMBER OF DOUBLE VERTICAL;aSHORT DOWN TACK WITH OVERBAR
bUP TACK WITH UNDERBAR;dABOVE SHORT DOWN TACK;aDOUBLE DOWN TACK;bUP TACK;bSTROKE NOT SIGN;aREVERSED DOUBLE STROKE NOT SIGN
aDOES NOT DIVIDE WITH REVERSED NEGATION SLASH;aVERTICAL LINE WITH CIRCLE ABOVE;eBELOW;aDOWN TACK WITH CIRCLE BELOW
aPARALLEL WITH HORIZONTAL STROKE;cTILDE OPERATOR;aTRIPLE VERTICAL BAR BINARY RELATION;dWITH HORIZONTAL STROKE;bCOLON OPERATOR
bNESTED LESS-THAN;cGREATER-THAN;aDOUBLE-LINE SLANTED LESS-THAN OR EQUAL TO;cGREATER-THAN OR EQUAL TO
aTRIPLE SOLIDUS BINARY RELATION;aLARGE TRIPLE VERTICAL BAR OPERATOR;aDOUBLE SOLIDUS OPERATOR;aWHITE VERTICAL BAR
aN-ARY WHITE VERTICAL BAR;aNORTH EAST WHITE ARROW;bWEST WHITE ARROW;aSOUTH EAST WHITE ARROW;bWEST WHITE ARROW
aLEFT RIGHT WHITE ARROW;aLEFTWARDS BLACK ARROW;aUPWARDS BLACK ARROW;aDOWNWARDS BLACK ARROW;aNORTH EAST BLACK ARROW
bWEST BLACK ARROW;aSOUTH EAST BLACK ARROW;bWEST BLACK ARROW;aLEFT RIGHT BLACK ARROW;aUP DOWN BLACK ARROW
aRIGHTWARDS ARROW WITH TIP DOWNWARDS;eUPWARDS;aLEFTWARDS ARROW WITH TIP DOWNWARDS;eUPWARDS;aSQUARE WITH TOP HALF BLACK
cBOTTOM HALF BLACK;cUPPER RIGHT DIAGONAL HALF BLACK;cLOWER LEFT DIAGONAL HALF BLACK;aDIAMOND WITH LEFT HALF BLACK
cRIGHT HALF BLACK;cTOP HALF BLACK;cBOTTOM HALF BLACK;aDOTTED SQUARE;aBLACK LARGE SQUARE;aWHITE LARGE SQUARE
aBLACK VERY SMALL SQUARE;aWHITE VERY SMALL SQUARE;aBLACK PENTAGON;aWHITE PENTAGON;bHEXAGON;aBLACK HEXAGON
aHORIZONTAL BLACK HEXAGON;aBLACK LARGE CIRCLE;bMEDIUM DIAMOND;aWHITE MEDIUM DIAMOND;aBLACK MEDIUM LOZENGE;aWHITE MEDIUM LOZENGE
aBLACK SMALL DIAMOND;cLOZENGE;aWHITE SMALL LOZENGE;aBLACK HORIZONTAL ELLIPSE;aWHITE HORIZONTAL ELLIPSE;aBLACK VERTICAL ELLIPSE
aWHITE VERTICAL ELLIPSE;aLEFT ARROW WITH SMALL CIRCLE;aTHREE LEFTWARDS ARROWS;aLEFT ARROW WITH CIRCLED PLUS
aLONG LEFTWARDS SQUIGGLE ARROW;aLEFTWARDS TWO-HEADED ARROW WITH VERTICAL STROKE;eDOUBLE VERTICAL STROKE;dFROM BAR
cTRIPLE DASH ARROW;bARROW WITH DOTTED STEM;dTAIL WITH VERTICAL STROKE;fDOUBLE VERTICAL STROKE;bTWO-HEADED ARROW WITH TAIL
fWITH VERTICAL STROKE;gDOUBLE VERTICAL STROKE;bARROW THROUGH X;aWAVE ARROW POINTING DIRECTLY LEFT
aEQUALS SIGN ABOVE LEFTWARDS ARROW;aREVERSE TILDE OPERATOR ABOVE LEFTWARDS ARROW;aLEFTWARDS ARROW ABOVE REVERSE ALMOST EQUAL TO
aRIGHTWARDS ARROW THROUGH GREATER-THAN;dSUPERSET;aLEFTWARDS QUADRUPLE ARROW;aRIGHTWARDS QUADRUPLE ARROW
aREVERSE TILDE OPERATOR ABOVE RIGHTWARDS ARROW;aRIGHTWARDS ARROW ABOVE REVERSE ALMOST EQUAL TO
aTILDE OPERATOR ABOVE LEFTWARDS ARROW;aLEFTWARDS ARROW ABOVE ALMOST EQUAL TO;dREVERSE TILDE OPERATOR
aRIGHTWARDS ARROW ABOVE REVERSE TILDE OPERATOR;aDOWNWARDS TRIANGLE-HEADED ZIGZAG ARROW;aSHORT SLANTED NORTH ARROW
bBACKSLANTED SOUTH ARROW;aWHITE MEDIUM STAR;aBLACK SMALL STAR;aWHITE SMALL STAR;aBLACK RIGHT-POINTING PENTAGON
aWHITE RIGHT-POINTING PENTAGON;aHEAVY LARGE CIRCLE;bOVAL WITH OVAL INSIDE;bCIRCLE WITH CIRCLE INSIDE;c;bCIRCLED SALTIRE
aSLANTED NORTH ARROW WITH HOOKED HEAD;aBACKSLANTED SOUTH ARROW WITH HOOKED TAIL;aSLANTED NORTH ARROW WITH HORIZONTAL TAIL
aBACKSLANTED SOUTH ARROW WITH HORIZONTAL TAIL;aBENT ARROW POINTING DOWNWARDS THEN NORTH EAST
aSHORT BENT ARROW POINTING DOWNWARDS THEN NORTH EAST;aLEFTWARDS TRIANGLE-HEADED ARROW;aUPWARDS TRIANGLE-HEADED ARROW
aRIGHTWARDS TRIANGLE-HEADED ARROW;aDOWNWARDS TRIANGLE-HEADED ARROW;aLEFT RIGHT TRIANGLE-HEADED ARROW
aUP DOWN TRIANGLE-HEADED ARROW;aNORTH WEST TRIANGLE-HEADED ARROW;bEAST TRIANGLE-HEADED ARROW;aSOUTH EAST TRIANGLE-HEADED ARROW
bWEST TRIANGLE-HEADED ARROW;aLEFTWARDS TRIANGLE-HEADED DASHED ARROW;aUPWARDS TRIANGLE-HEADED DASHED ARROW
aRIGHTWARDS TRIANGLE-HEADED DASHED ARROW;aDOWNWARDS TRIANGLE-HEADED DASHED ARROW;aCLOCKWISE TRIANGLE-HEADED OPEN CIRCLE ARROW
aANTICLOCKWISE TRIANGLE-HEADED OPEN CIRCLE ARROW;aLEFTWARDS TRIANGLE-HEADED ARROW TO BAR;aUPWARDS TRIANGLE-HEADED ARROW TO BAR
aRIGHTWARDS TRIANGLE-HEADED ARROW TO BAR;aDOWNWARDS TRIANGLE-HEADED ARROW TO BAR;>2B76;aNORTH WEST TRIANGLE-HEADED ARROW TO BAR
bEAST TRIANGLE-HEADED ARROW TO BAR;aSOUTH EAST TRIANGLE-HEADED ARROW TO BAR;bWEST TRIANGLE-HEADED ARROW TO BAR
aLEFTWARDS TRIANGLE-HEADED ARROW WITH DOUBLE HORIZONTAL STROKE;aUPWARDS TRIANGLE-HEADED ARROW WITH DOUBLE HORIZONTAL STROKE
aRIGHTWARDS TRIANGLE-HEADED ARROW WITH DOUBLE HORIZONTAL STROKE;aDOWNWARDS TRIANGLE-HEADED ARROW WITH DOUBLE HORIZONTAL STROKE
aHORIZONTAL TAB KEY;aVERTICAL TAB KEY;aLEFTWARDS TRIANGLE-HEADED ARROW OVER RIGHTWARDS TRIANGLE-HEADED ARROW
aUPWARDS TRIANGLE-HEADED ARROW LEFTWARDS OF DOWNWARDS TRIANGLE-HEADED ARROW
aRIGHTWARDS TRIANGLE-HEADED ARROW OVER LEFTWARDS TRIANGLE-HEADED ARROW
aDOWNWARDS TRIANGLE-HEADED ARROW LEFTWARDS OF UPWARDS TRIANGLE-HEADED ARROW;aLEFTWARDS TRIANGLE-HEADED PAIRED ARROWS
aUPWARDS TRIANGLE-HEADED PAIRED ARROWS;aRIGHTWARDS TRIANGLE-HEADED PAIRED ARROWS;aDOWNWARDS TRIANGLE-HEADED PAIRED ARROWS
aLEFTWARDS BLACK CIRCLED WHITE ARROW;aUPWARDS BLACK CIRCLED WHITE ARROW;aRIGHTWARDS BLACK CIRCLED WHITE ARROW
aDOWNWARDS BLACK CIRCLED WHITE ARROW;aANTICLOCKWISE TRIANGLE-HEADED RIGHT U-SHAPED ARROW;cBOTTOM U-SHAPED ARROW
cLEFT U-SHAPED ARROW;cTOP U-SHAPED ARROW;aRETURN LEFT;bRIGHT;aNEWLINE LEFT;bRIGHT;aFOUR CORNER ARROWS CIRCLING ANTICLOCKWISE
aRIGHTWARDS BLACK ARROW;>2B97;aSYMBOL FOR TYPE A ELECTRONICS;aTHREE-D TOP-LIGHTED LEFTWARDS EQUILATERAL ARROWHEAD
bRIGHT-LIGHTED UPWARDS EQUILATERAL ARROWHEAD;bTOP-LIGHTED RIGHTWARDS EQUILATERAL ARROWHEAD
bLEFT-LIGHTED DOWNWARDS EQUILATERAL ARROWHEAD;aBLACK LEFTWARDS EQUILATERAL ARROWHEAD;bUPWARDS EQUILATERAL ARROWHEAD
bRIGHTWARDS EQUILATERAL ARROWHEAD;bDOWNWARDS EQUILATERAL ARROWHEAD;aDOWNWARDS TRIANGLE-HEADED ARROW WITH LONG TIP LEFTWARDS
gRIGHTWARDS;aUPWARDS TRIANGLE-HEADED ARROW WITH LONG TIP LEFTWARDS;gRIGHTWARDS
aLEFTWARDS TRIANGLE-HEADED ARROW WITH LONG TIP UPWARDS;aRIGHTWARDS TRIANGLE-HEADED ARROW WITH LONG TIP UPWARDS
aLEFTWARDS TRIANGLE-HEADED ARROW WITH LONG TIP DOWNWARDS;aRIGHTWARDS TRIANGLE-HEADED ARROW WITH LONG TIP DOWNWARDS
aBLACK CURVED DOWNWARDS AND LEFTWARDS ARROW;eRIGHTWARDS ARROW;cUPWARDS AND LEFTWARDS ARROW;eRIGHTWARDS ARROW
cLEFTWARDS AND UPWARDS ARROW;cRIGHTWARDS AND UPWARDS ARROW;cLEFTWARDS AND DOWNWARDS ARROW;cRIGHTWARDS AND DOWNWARDS ARROW
aRIBBON ARROW DOWN LEFT;dRIGHT;cUP LEFT;dRIGHT;cLEFT UP;cRIGHT UP;cLEFT DOWN;cRIGHT DOWN
aUPWARDS WHITE ARROW FROM BAR WITH HORIZONTAL BAR;aUP ARROWHEAD IN A RECTANGLE BOX;aOVERLAPPING WHITE SQUARES;cAND BLACK SQUARES
bBLACK SQUARES;aBALLOT BOX WITH LIGHT X;aCIRCLED X;bBOLD X;aBLACK SQUARE CENTRED;bDIAMOND CENTRED;aTURNED BLACK PENTAGON
aHORIZONTAL BLACK OCTAGON;aBLACK OCTAGON;bMEDIUM UP-POINTING TRIANGLE CENTRED;cDOWN-POINTING TRIANGLE CENTRED
cLEFT-POINTING TRIANGLE CENTRED;cRIGHT-POINTING TRIANGLE CENTRED;aNEPTUNE FORM TWO;aTOP HALF BLACK CIRCLE
aBOTTOM HALF BLACK CIRCLE;aLIGHT FOUR POINTED BLACK CUSP;aROTATED LIGHT FOUR POINTED BLACK CUSP;aWHITE FOUR POINTED CUSP
aROTATED WHITE FOUR POINTED CUSP;aSQUARE POSITION INDICATOR;aUNCERTAINTY SIGN;aGROUP MARK;aPLUTO FORM TWO;cTHREE;cFOUR;cFIVE
aTRANSPLUTO;aPROSERPINA;aASTRAEA;aHYGIEA;aPHOLUS;aNESSUS;aWHITE MOON SELENA;aBLACK DIAMOND ON CROSS;aTRUE LIGHT MOON ARTA
aCUPIDO;aHADES;aZEUS;aKRONOS;aAPOLLON;aADMETOS;aVULCANUS;aPOSEIDON;aLEFT HALF BLACK STAR;aRIGHT HALF BLACK STAR
aSTAR WITH LEFT HALF BLACK;cRIGHT HALF BLACK;aLEFTWARDS TWO-HEADED ARROW WITH TRIANGLE ARROWHEADS
aUPWARDS TWO-HEADED ARROW WITH TRIANGLE ARROWHEADS;aRIGHTWARDS TWO-HEADED ARROW WITH TRIANGLE ARROWHEADS
aDOWNWARDS TWO-HEADED ARROW WITH TRIANGLE ARROWHEADS;aERIS FORM ONE;cTWO;aSEDNA;aRUSSIAN ASTROLOGICAL SYMBOL VIGINTILE;dNOVILE
dQUINTILE;dBINOVILE;dSENTAGON;dTREDECILE;aEQUALS SIGN WITH INFINITY BELOW;aUNITED SYMBOL;aSEPARATED SYMBOL;aDOUBLED SYMBOL
aPASSED SYMBOL;aREVERSED RIGHT ANGLE;aHELLSCHREIBER PAUSE SYMBOL;aGLAGOLITIC CAPITAL LETTER AZU;dBUKY;dVEDE;dGLAGOLI;dDOBRO
dYESTU;dZHIVETE;dDZELO;dZEMLJA;dIZHE;dINITIAL IZHE;dI;dDJERVI;dKAKO;dLJUDIJE;dMYSLITE;dNASHI;dONU;dPOKOJI;dRITSI;dSLOVO;dTVRIDO
dUKU;dFRITU;dHERU;dOTU;dPE;dSHTA;dTSI;dCHRIVI;dSHA;dYERU;dYERI;dYATI;dSPIDERY HA;dYU;dSMALL YUS;fWITH TAIL;dYO
dIOTATED SMALL YUS;dBIG YUS;dIOTATED BIG YUS;dFITA;dIZHITSA;dSHTAPIC;dTROKUTASTI A;dLATINATE MYSLITE;dCAUDATE CHRIVI
bSMALL LETTER AZU;dBUKY;dVEDE;dGLAGOLI;dDOBRO;dYESTU;dZHIVETE;dDZELO;dZEMLJA;dIZHE;dINITIAL IZHE;dI;dDJERVI;dKAKO;dLJUDIJE
dMYSLITE;dNASHI;dONU;dPOKOJI;dRITSI;dSLOVO;dTVRIDO;dUKU;dFRITU;dHERU;dOTU;dPE;dSHTA;dTSI;dCHRIVI;dSHA;dYERU;dYERI;dYATI
dSPIDERY HA;dYU;dSMALL YUS;fWITH TAIL;dYO;dIOTATED SMALL YUS;dBIG YUS;dIOTATED BIG YUS;dFITA;dIZHITSA;dSHTAPIC;dTROKUTASTI A
dLATINATE MYSLITE;dCAUDATE CHRIVI;aLATIN CAPITAL LETTER L WITH DOUBLE BAR;bSMALL LETTER L WITH DOUBLE BAR
bCAPITAL LETTER L WITH MIDDLE TILDE;dP WITH STROKE;dR WITH TAIL;bSMALL LETTER A WITH STROKE;dT WITH DIAGONAL STROKE
bCAPITAL LETTER H WITH DESCENDER;bSMALL LETTER H WITH DESCENDER;bCAPITAL LETTER K WITH DESCENDER;bSMALL LETTER K WITH DESCENDER
bCAPITAL LETTER Z WITH DESCENDER;bSMALL LETTER Z WITH DESCENDER;bCAPITAL LETTER ALPHA;dM WITH HOOK;dTURNED A;eALPHA
bSMALL LETTER V WITH RIGHT HOOK;bCAPITAL LETTER W WITH HOOK;bSMALL LETTER W WITH HOOK;dV WITH CURL;bCAPITAL LETTER HALF H
bSMALL LETTER HALF H;dTAILLESS PHI;dE WITH NOTCH;dTURNED R WITH TAIL;dO WITH LOW RING INSIDE;bLETTER SMALL CAPITAL TURNED E
bSUBSCRIPT SMALL LETTER J;aMODIFIER LETTER CAPITAL V;aLATIN CAPITAL LETTER S WITH SWASH TAIL;dZ WITH SWASH TAIL
aCOPTIC CAPITAL LETTER ALFA;bSMALL LETTER ALFA;bCAPITAL LETTER VIDA;bSMALL LETTER VIDA;bCAPITAL LETTER GAMMA;bSMALL LETTER GAMMA
bCAPITAL LETTER DALDA;bSMALL LETTER DALDA;bCAPITAL LETTER EIE;bSMALL LETTER EIE;bCAPITAL LETTER SOU;bSMALL LETTER SOU
bCAPITAL LETTER ZATA;bSMALL LETTER ZATA;bCAPITAL LETTER HATE;bSMALL LETTER HATE;bCAPITAL LETTER THETHE;bSMALL LETTER THETHE
bCAPITAL LETTER IAUDA;bSMALL LETTER IAUDA;bCAPITAL LETTER KAPA;bSMALL LETTER KAPA;bCAPITAL LETTER LAULA;bSMALL LETTER LAULA
bCAPITAL LETTER MI;bSMALL LETTER MI;bCAPITAL LETTER NI;bSMALL LETTER NI;bCAPITAL LETTER KSI;bSMALL LETTER KSI;bCAPITAL LETTER O
bSMALL LETTER O;bCAPITAL LETTER PI;bSMALL LETTER PI;bCAPITAL LETTER RO;bSMALL LETTER RO;bCAPITAL LETTER SIMA;bSMALL LETTER SIMA
bCAPITAL LETTER TAU;bSMALL LETTER TAU;bCAPITAL LETTER UA;bSMALL LETTER UA;bCAPITAL LETTER FI;bSMALL LETTER FI
bCAPITAL LETTER KHI;bSMALL LETTER KHI;bCAPITAL LETTER PSI;bSMALL LETTER PSI;bCAPITAL LETTER OOU;bSMALL LETTER OOU
bCAPITAL LETTER DIALECT-P ALEF;bSMALL LETTER DIALECT-P ALEF;bCAPITAL LETTER OLD COPTIC AIN;bSMALL LETTER OLD COPTIC AIN
bCAPITAL LETTER CRYPTOGRAMMIC EIE;bSMALL LETTER CRYPTOGRAMMIC EIE;bCAPITAL LETTER DIALECT-P KAPA;bSMALL LETTER DIALECT-P KAPA
bCAPITAL LETTER DIALECT-P NI;bSMALL LETTER DIALECT-P NI;bCAPITAL LETTER CRYPTOGRAMMIC NI;bSMALL LETTER CRYPTOGRAMMIC NI
bCAPITAL LETTER OLD COPTIC OOU;bSMALL LETTER OLD COPTIC OOU;bCAPITAL LETTER SAMPI;bSMALL LETTER SAMPI
bCAPITAL LETTER CROSSED SHEI;bSMALL LETTER CROSSED SHEI;bCAPITAL LETTER OLD COPTIC SHEI;bSMALL LETTER OLD COPTIC SHEI
bCAPITAL LETTER OLD COPTIC ESH;bSMALL LETTER OLD COPTIC ESH;bCAPITAL LETTER AKHMIMIC KHEI;bSMALL LETTER AKHMIMIC KHEI
bCAPITAL LETTER DIALECT-P HORI;bSMALL LETTER DIALECT-P HORI;bCAPITAL LETTER OLD COPTIC HORI;bSMALL LETTER OLD COPTIC HORI
bCAPITAL LETTER OLD COPTIC HA;bSMALL LETTER OLD COPTIC HA;bCAPITAL LETTER L-SHAPED HA;bSMALL LETTER L-SHAPED HA
bCAPITAL LETTER OLD COPTIC HEI;bSMALL LETTER OLD COPTIC HEI;bCAPITAL LETTER OLD COPTIC HAT;bSMALL LETTER OLD COPTIC HAT
bCAPITAL LETTER OLD COPTIC GANGIA;bSMALL LETTER OLD COPTIC GANGIA;bCAPITAL LETTER OLD COPTIC DJA;bSMALL LETTER OLD COPTIC DJA
bCAPITAL LETTER OLD COPTIC SHIMA;bSMALL LETTER OLD COPTIC SHIMA;bCAPITAL LETTER OLD NUBIAN SHIMA;bSMALL LETTER OLD NUBIAN SHIMA
bCAPITAL LETTER OLD NUBIAN NGI;bSMALL LETTER OLD NUBIAN NGI;bCAPITAL LETTER OLD NUBIAN NYI;bSMALL LETTER OLD NUBIAN NYI
bCAPITAL LETTER OLD NUBIAN WAU;bSMALL LETTER OLD NUBIAN WAU;bSYMBOL KAI;cMI RO;cPI RO;cSTAUROS;cTAU RO;cKHI RO;cSHIMA SIMA
bCAPITAL LETTER CRYPTOGRAMMIC SHEI;bSMALL LETTER CRYPTOGRAMMIC SHEI;bCAPITAL LETTER CRYPTOGRAMMIC GANGIA
bSMALL LETTER CRYPTOGRAMMIC GANGIA;bCOMBINING NI ABOVE;cSPIRITUS ASPER;dLENIS;bCAPITAL LETTER BOHAIRIC KHEI
bSMALL LETTER BOHAIRIC KHEI;>2CF9;bOLD NUBIAN FULL STOP;dDIRECT QUESTION MARK;dINDIRECT QUESTION MARK;dVERSE DIVIDER
bFRACTION ONE HALF;bFULL STOP;bMORPHOLOGICAL DIVIDER;aGEORGIAN SMALL LETTER AN;dBAN;dGAN;dDON;dEN;dVIN;dZEN;dTAN;dIN;dKAN;dLAS
dMAN;dNAR;dON;dPAR;dZHAR;dRAE;dSAN;dTAR;dUN;dPHAR;dKHAR;dGHAN;dQAR;dSHIN;dCHIN;dCAN;dJIL;dCIL;dCHAR;dXAN;dJHAN;dHAE;dHE;dHIE;dWE
dHAR;dHOE;>2D27;dYN;>2D2D;dAEN;>2D30;aTIFINAGH LETTER YA;cYAB;cYABH;cYAG;cYAGHH;cBERBER ACADEMY YAJ;cYAJ;cYAD;cYADH;cYADD;cYADDH
cYEY;cYAF;cYAK;cTUAREG YAK;cYAKHH;cYAH;cBERBER ACADEMY YAH;cTUAREG YAH;cYAHH;cYAA;cYAKH;cTUAREG YAKH;cYAQ;cTUAREG YAQ;cYI;cYAZH
cAHAGGAR YAZH;cTUAREG YAZH;cYAL;cYAM;cYAN;cTUAREG YAGN;dYANG;cYAP;cYU;cYAR;cYARR;cYAGH;cTUAREG YAGH;cAYER YAGH;cYAS;cYASS;cYASH
cYAT;cYATH;cYACH;cYATT;cYAV;cYAW;cYAY;cYAZ;cTAWELLEMET YAZ;cYAZZ;cYE;cYO;>2D6F;bMODIFIER LETTER LABIALIZATION MARK
bSEPARATOR MARK;>2D7F;bCONSONANT JOINER;aETHIOPIC SYLLABLE LOA;cMOA;cROA;cSOA;cSHOA;cBOA;cTOA;cCOA;cNOA;cNYOA;cGLOTTAL OA;cZOA
cDOA;cDDOA;cJOA;cTHOA;cCHOA;cPHOA;cPOA;cGGWA;cGGWI;cGGWEE;cGGWE;>2DA0;cSSA;cSSU;cSSI;cSSAA;cSSEE;cSSE;cSSO;>2DA8;cCCA;cCCU;cCCI
cCCAA;cCCEE;cCCE;cCCO;>2DB0;cZZA;cZZU;cZZI;cZZAA;cZZEE;cZZE;cZZO;>2DB8;cCCHA;cCCHU;cCCHI;cCCHAA;cCCHEE;cCCHE;cCCHO;>2DC0;cQYA
cQYU;cQYI;cQYAA;cQYEE;cQYE;cQYO;>2DC8;cKYA;cKYU;cKYI;cKYAA;cKYEE;cKYE;cKYO;>2DD0;cXYA;cXYU;cXYI;cXYAA;cXYEE;cXYE;cXYO;>2DD8;cGYA
cGYU;cGYI;cGYAA;cGYEE;cGYE;cGYO;>2DE0;aCOMBINING CYRILLIC LETTER BE;dVE;dGHE;dDE;dZHE;dZE;dKA;dEL;dEM;dEN;dO;dPE;dER;dES;dTE;dHA
dTSE;dCHE;dSHA;dSHCHA;dFITA;dES-TE;dA;dIE;dDJERV;dMONOGRAPH UK;dYAT;dYU;dIOTIFIED A;dLITTLE YUS;dBIG YUS;dIOTIFIED BIG YUS
aRIGHT ANGLE SUBSTITUTION MARKER;cDOTTED SUBSTITUTION MARKER;aLEFT SUBSTITUTION BRACKET;aRIGHT SUBSTITUTION BRACKET
aLEFT DOTTED SUBSTITUTION BRACKET;aRIGHT DOTTED SUBSTITUTION BRACKET;aRAISED INTERPOLATION MARKER;bDOTTED INTERPOLATION MARKER
aDOTTED TRANSPOSITION MARKER;aLEFT TRANSPOSITION BRACKET;aRIGHT TRANSPOSITION BRACKET;aRAISED SQUARE
aLEFT RAISED OMISSION BRACKET;aRIGHT RAISED OMISSION BRACKET;aEDITORIAL CORONIS;aPARAGRAPHOS;aFORKED PARAGRAPHOS
aREVERSED FORKED PARAGRAPHOS;aHYPODIASTOLE;aDOTTED OBELOS;aDOWNWARDS ANCORA;aUPWARDS ANCORA;aDOTTED RIGHT-POINTING ANGLE
aDOUBLE OBLIQUE HYPHEN;aINVERTED INTERROBANG;aPALM BRANCH;aHYPHEN WITH DIAERESIS;aTILDE WITH RING ABOVE
aLEFT LOW PARAPHRASE BRACKET;aRIGHT LOW PARAPHRASE BRACKET;aTILDE WITH DOT ABOVE;dBELOW;aLEFT VERTICAL BAR WITH QUILL
aRIGHT VERTICAL BAR WITH QUILL;aTOP LEFT HALF BRACKET;bRIGHT HALF BRACKET;aBOTTOM LEFT HALF BRACKET;bRIGHT HALF BRACKET
aLEFT SIDEWAYS U BRACKET;aRIGHT SIDEWAYS U BRACKET;aLEFT DOUBLE PARENTHESIS;aRIGHT DOUBLE PARENTHESIS
aTWO DOTS OVER ONE DOT PUNCTUATION;aONE DOT OVER TWO DOTS PUNCTUATION;aSQUARED FOUR DOT PUNCTUATION;aFIVE DOT MARK
aREVERSED QUESTION MARK;aVERTICAL TILDE;aRING POINT;aWORD SEPARATOR MIDDLE DOT;aTURNED COMMA;aRAISED DOT;bCOMMA
aTURNED SEMICOLON;aDAGGER WITH LEFT GUARD;cRIGHT GUARD;aTURNED DAGGER;aTOP HALF SECTION SIGN;aTWO-EM DASH;aTHREE-EM DASH
aSTENOGRAPHIC FULL STOP;aVERTICAL SIX DOTS;aWIGGLY VERTICAL LINE;aCAPITULUM;aDOUBLE HYPHEN;aREVERSED COMMA
aDOUBLE LOW-REVERSED-9 QUOTATION MARK;aDASH WITH LEFT UPTURN;aDOUBLE SUSPENSION MARK;aINVERTED LOW KAVYKA;dWITH KAVYKA ABOVE
aLOW KAVYKA;cWITH DOT;aDOUBLE STACKED COMMA;aDOTTED SOLIDUS;aTRIPLE DAGGER;aMEDIEVAL COMMA;aPARAGRAPHUS MARK
aPUNCTUS ELEVATUS MARK;aCORNISH VERSE DIVIDER;aCROSS PATTY WITH RIGHT CROSSBAR;dLEFT CROSSBAR;aTIRONIAN SIGN CAPITAL ET
aMEDIEVAL EXCLAMATION MARK;bQUESTION MARK;aLEFT SQUARE BRACKET WITH STROKE;aRIGHT SQUARE BRACKET WITH STROKE
aLEFT SQUARE BRACKET WITH DOUBLE STROKE;aRIGHT SQUARE BRACKET WITH DOUBLE STROKE;aTOP HALF LEFT PARENTHESIS;cRIGHT PARENTHESIS
aBOTTOM HALF LEFT PARENTHESIS;cRIGHT PARENTHESIS;aOBLIQUE HYPHEN;>2E80;aCJK RADICAL REPEAT;cCLIFF;cSECOND ONE;dTWO;dTHREE
cPERSON;cBOX;cTABLE;cKNIFE ONE;dTWO;cDIVINATION;cSEAL;cSMALL ONE;dTWO;cLAME ONE;dTWO;dTHREE;dFOUR;cSNAKE;cTHREAD;cSNOUT ONE;dTWO
cHEART ONE;dTWO;cHAND;cRAP;>2E9B;cCHOKE;cSUN;cMOON;cDEATH;cMOTHER;cCIVILIAN;cWATER ONE;dTWO;cFIRE;cPAW ONE;dTWO
cSIMPLIFIED HALF TREE TRUNK;cCOW;cDOG;cJADE;cBOLT OF CLOTH;cEYE;cSPIRIT ONE;dTWO;cBAMBOO;cSILK;cC-SIMPLIFIED SILK;cNET ONE;dTWO
dTHREE;dFOUR;cMESH;cSHEEP;cRAM;cEWE;cOLD;cBRUSH ONE;dTWO;cMEAT;cMORTAR;cGRASS ONE;dTWO;dTHREE;cTIGER;cCLOTHES;cWEST ONE;dTWO
cC-SIMPLIFIED SEE;cSIMPLIFIED HORN;cHORN;cC-SIMPLIFIED SPEECH;dSHELL;cFOOT;cC-SIMPLIFIED CART;cSIMPLIFIED WALK;cWALK ONE;dTWO
cCITY;cC-SIMPLIFIED GOLD;cLONG ONE;dTWO;cC-SIMPLIFIED LONG;dGATE;cMOUND ONE;dTWO;cRAIN;cBLUE;cC-SIMPLIFIED TANNED LEATHER;dLEAF
dWIND;dFLY;cEAT ONE;dTWO;dTHREE;cC-SIMPLIFIED EAT;cHEAD;cC-SIMPLIFIED HORSE;cBONE;cGHOST;cC-SIMPLIFIED FISH;dBIRD;dSALT
cSIMPLIFIED WHEAT;dYELLOW;cC-SIMPLIFIED FROG;cJ-SIMPLIFIED EVEN;cC-SIMPLIFIED EVEN;cJ-SIMPLIFIED TOOTH;cC-SIMPLIFIED TOOTH
cJ-SIMPLIFIED DRAGON;cC-SIMPLIFIED DRAGON;cTURTLE;cJ-SIMPLIFIED TURTLE;cC-SIMPLIFIED TURTLE;>2F00;aKANGXI RADICAL ONE;cLINE;cDOT
cSLASH;cSECOND;cHOOK;cTWO;cLID;cMAN;cLEGS;cENTER;cEIGHT;cDOWN BOX;cCOVER;cICE;cTABLE;cOPEN BOX;cKNIFE;cPOWER;cWRAP;cSPOON
cRIGHT OPEN BOX;cHIDING ENCLOSURE;cTEN;cDIVINATION;cSEAL;cCLIFF;cPRIVATE;cAGAIN;cMOUTH;cENCLOSURE;cEARTH;cSCHOLAR;cGO;dSLOWLY
cEVENING;cBIG;cWOMAN;cCHILD;cROOF;cINCH;cSMALL;cLAME;cCORPSE;cSPROUT;cMOUNTAIN;cRIVER;cWORK;cONESELF;cTURBAN;cDRY;cSHORT THREAD
cDOTTED CLIFF;cLONG STRIDE;cTWO HANDS;cSHOOT;cBOW;cSNOUT;cBRISTLE;cSTEP;cHEART;cHALBERD;cDOOR;cHAND;cBRANCH;cRAP;cSCRIPT;cDIPPER
cAXE;cSQUARE;cNOT;cSUN;cSAY;cMOON;cTREE;cLACK;cSTOP;cDEATH;cWEAPON;cDO NOT;cCOMPARE;cFUR;cCLAN;cSTEAM;cWATER;cFIRE;cCLAW;cFATHER
cDOUBLE X;cHALF TREE TRUNK;cSLICE;cFANG;cCOW;cDOG;cPROFOUND;cJADE;cMELON;cTILE;cSWEET;cLIFE;cUSE;cFIELD;cBOLT OF CLOTH;cSICKNESS
cDOTTED TENT;cWHITE;cSKIN;cDISH;cEYE;cSPEAR;cARROW;cSTONE;cSPIRIT;cTRACK;cGRAIN;cCAVE;cSTAND;cBAMBOO;cRICE;cSILK;cJAR;cNET
cSHEEP;cFEATHER;cOLD;cAND;cPLOW;cEAR;cBRUSH;cMEAT;cMINISTER;cSELF;cARRIVE;cMORTAR;cTONGUE;cOPPOSE;cBOAT;cSTOPPING;cCOLOR;cGRASS
cTIGER;cINSECT;cBLOOD;cWALK ENCLOSURE;cCLOTHES;cWEST;cSEE;cHORN;cSPEECH;cVALLEY;cBEAN;cPIG;cBADGER;cSHELL;cRED;cRUN;cFOOT;cBODY
cCART;cBITTER;cMORNING;cWALK;cCITY;cWINE;cDISTINGUISH;cVILLAGE;cGOLD;cLONG;cGATE;cMOUND;cSLAVE;cSHORT TAILED BIRD;cRAIN;cBLUE
cWRONG;cFACE;cLEATHER;cTANNED LEATHER;cLEEK;cSOUND;cLEAF;cWIND;cFLY;cEAT;cHEAD;cFRAGRANT;cHORSE;cBONE;cTALL;cHAIR;cFIGHT
cSACRIFICIAL WINE;cCAULDRON;cGHOST;cFISH;cBIRD;cSALT;cDEER;cWHEAT;cHEMP;cYELLOW;cMILLET;cBLACK;cEMBROIDERY;cFROG;cTRIPOD;cDRUM
cRAT;cNOSE;cEVEN;cTOOTH;cDRAGON;cTURTLE;cFLUTE;>2FF0;aIDEOGRAPHIC DESCRIPTION CHARACTER LEFT TO RIGHT;dABOVE TO BELOW
dLEFT TO MIDDLE AND RIGHT;dABOVE TO MIDDLE AND BELOW;dFULL SURROUND;dSURROUND FROM ABOVE;fBELOW;fLEFT;fUPPER LEFT;gRIGHT
fLOWER LEFT;dOVERLAID;>3000;bSPACE;bCOMMA;bFULL STOP;aDITTO MARK;aJAPANESE INDUSTRIAL STANDARD SYMBOL
aIDEOGRAPHIC ITERATION MARK;bCLOSING MARK;bNUMBER ZERO;aLEFT ANGLE BRACKET;aRIGHT ANGLE BRACKET;aLEFT DOUBLE ANGLE BRACKET
aRIGHT DOUBLE ANGLE BRACKET;aLEFT CORNER BRACKET;aRIGHT CORNER BRACKET;aLEFT WHITE CORNER BRACKET;aRIGHT WHITE CORNER BRACKET
aLEFT BLACK LENTICULAR BRACKET;aRIGHT BLACK LENTICULAR BRACKET;aPOSTAL MARK;aGETA MARK;aLEFT TORTOISE SHELL BRACKET
aRIGHT TORTOISE SHELL BRACKET;aLEFT WHITE LENTICULAR BRACKET;aRIGHT WHITE LENTICULAR BRACKET;aLEFT WHITE TORTOISE SHELL BRACKET
aRIGHT WHITE TORTOISE SHELL BRACKET;aLEFT WHITE SQUARE BRACKET;aRIGHT WHITE SQUARE BRACKET;aWAVE DASH
aREVERSED DOUBLE PRIME QUOTATION MARK;aDOUBLE PRIME QUOTATION MARK;aLOW DOUBLE PRIME QUOTATION MARK;aPOSTAL MARK FACE
aHANGZHOU NUMERAL ONE;cTWO;cTHREE;cFOUR;cFIVE;cSIX;cSEVEN;cEIGHT;cNINE;aIDEOGRAPHIC LEVEL TONE MARK;bRISING TONE MARK
bDEPARTING TONE MARK;bENTERING TONE MARK;aHANGUL SINGLE DOT TONE MARK;bDOUBLE DOT TONE MARK;aWAVY DASH
aVERTICAL KANA REPEAT MARK;dWITH VOICED SOUND MARK;dMARK UPPER HALF;dWITH VOICED SOUND MARK UPPER HALF;dMARK LOWER HALF
aCIRCLED POSTAL MARK;aIDEOGRAPHIC TELEGRAPH LINE FEED SEPARATOR SYMBOL;aHANGZHOU NUMERAL TEN;cTWENTY;cTHIRTY
aVERTICAL IDEOGRAPHIC ITERATION MARK;aMASU MARK;aPART ALTERNATION MARK;aIDEOGRAPHIC VARIATION INDICATOR;bHALF FILL SPACE;>3041
aHIRAGANA LETTER SMALL A;cA;cSMALL I;cI;cSMALL U;cU;cSMALL E;cE;cSMALL O;cO;cKA;cGA;cKI;cGI;cKU;cGU;cKE;cGE;cKO;cGO;cSA;cZA;cSI
cZI;cSU;cZU;cSE;cZE;cSO;cZO;cTA;cDA;cTI;cDI;cSMALL TU;cTU;cDU;cTE;cDE;cTO;cDO;cNA;cNI;cNU;cNE;cNO;cHA;cBA;cPA;cHI;cBI;cPI;cHU
cBU;cPU;cHE;cBE;cPE;cHO;cBO;cPO;cMA;cMI;cMU;cME;cMO;cSMALL YA;cYA;cSMALL YU;cYU;cSMALL YO;cYO;cRA;cRI;cRU;cRE;cRO;cSMALL WA;cWA
cWI;cWE;cWO;cN;cVU;cSMALL KA;dKE;>3099;aCOMBINING KATAKANA-HIRAGANA VOICED SOUND MARK;cSEMI-VOICED SOUND MARK
aKATAKANA-HIRAGANA VOICED SOUND MARK;bSEMI-VOICED SOUND MARK;aHIRAGANA ITERATION MARK;bVOICED ITERATION MARK;bDIGRAPH YORI
aKATAKANA-HIRAGANA DOUBLE HYPHEN;aKATAKANA LETTER SMALL A;cA;cSMALL I;cI;cSMALL U;cU;cSMALL E;cE;cSMALL O;cO;cKA;cGA;cKI;cGI;cKU
cGU;cKE;cGE;cKO;cGO;cSA;cZA;cSI;cZI;cSU;cZU;cSE;cZE;cSO;cZO;cTA;cDA;cTI;cDI;cSMALL TU;cTU;cDU;cTE;cDE;cTO;cDO;cNA;cNI;cNU;cNE
cNO;cHA;cBA;cPA;cHI;cBI;cPI;cHU;cBU;cPU;cHE;cBE;cPE;cHO;cBO;cPO;cMA;cMI;cMU;cME;cMO;cSMALL YA;cYA;cSMALL YU;cYU;cSMALL YO;cYO
cRA;cRI;cRU;cRE;cRO;cSMALL WA;cWA;cWI;cWE;cWO;cN;cVU;cSMALL KA;dKE;cVA;cVI;cVE;cVO;bMIDDLE DOT
aKATAKANA-HIRAGANA PROLONGED SOUND MARK;aKATAKANA ITERATION MARK;bVOICED ITERATION MARK;bDIGRAPH KOTO;>3105;aBOPOMOFO LETTER B
cP;cM;cF;cD;cT;cN;cL;cG;cK;cH;cJ;cQ;cX;cZH;cCH;cSH;cR;cZ;cC;cS;cA;cO;cE;cEH;cAI;cEI;cAU;cOU;cAN;cEN;cANG;cENG;cER;cI;cU;cIU;cV
cNG;cGN;cIH;cO WITH DOT ABOVE;cNN;>3131;aHANGUL LETTER KIYEOK;cSSANGKIYEOK;cKIYEOK-SIOS;cNIEUN;cNIEUN-CIEUC;cNIEUN-HIEUH;cTIKEUT
cSSANGTIKEUT;cRIEUL;cRIEUL-KIYEOK;cRIEUL-MIEUM;cRIEUL-PIEUP;cRIEUL-SIOS;cRIEUL-THIEUTH;cRIEUL-PHIEUPH;cRIEUL-HIEUH;cMIEUM;cPIEUP
cSSANGPIEUP;cPIEUP-SIOS;cSIOS;cSSANGSIOS;cIEUNG;cCIEUC;cSSANGCIEUC;cCHIEUCH;cKHIEUKH;cTHIEUTH;cPHIEUPH;cHIEUH;cA;cAE;cYA;cYAE
cEO;cE;cYEO;cYE;cO;cWA;cWAE;cOE;cYO;cU;cWEO;cWE;cWI;cYU;cEU;cYI;cI;bFILLER;bLETTER SSANGNIEUN;cNIEUN-TIKEUT;cNIEUN-SIOS
cNIEUN-PANSIOS;cRIEUL-KIYEOK-SIOS;cRIEUL-TIKEUT;cRIEUL-PIEUP-SIOS;cRIEUL-PANSIOS;cRIEUL-YEORINHIEUH;cMIEUM-PIEUP;cMIEUM-SIOS
cMIEUM-PANSIOS;cKAPYEOUNMIEUM;cPIEUP-KIYEOK;cPIEUP-TIKEUT;cPIEUP-SIOS-KIYEOK;cPIEUP-SIOS-TIKEUT;cPIEUP-CIEUC;cPIEUP-THIEUTH
cKAPYEOUNPIEUP;cKAPYEOUNSSANGPIEUP;cSIOS-KIYEOK;cSIOS-NIEUN;cSIOS-TIKEUT;cSIOS-PIEUP;cSIOS-CIEUC;cPANSIOS;cSSANGIEUNG;cYESIEUNG
cYESIEUNG-SIOS;cYESIEUNG-PANSIOS;cKAPYEOUNPHIEUPH;cSSANGHIEUH;cYEORINHIEUH;cYO-YA;cYO-YAE;cYO-I;cYU-YEO;cYU-YE;cYU-I;cARAEA
cARAEAE;>3190;aIDEOGRAPHIC ANNOTATION LINKING MARK;cREVERSE MARK;cONE MARK;cTWO MARK;cTHREE MARK;cFOUR MARK;cTOP MARK
cMIDDLE MARK;cBOTTOM MARK;cFIRST MARK;cSECOND MARK;cTHIRD MARK;cFOURTH MARK;cHEAVEN MARK;cEARTH MARK;cMAN MARK
aBOPOMOFO LETTER BU;cZI;cJI;cGU;cEE;cENN;cOO;cONN;cIR;cANN;cINN;cUNN;cIM;cNGG;cAINN;cAUNN;cAM;cOM;cONG;cINNN;bFINAL LETTER P;dT
dK;dH;bLETTER GH;cLH;cZY;bFINAL LETTER G;bLETTER GW;cKW;cOE;cAH;aCJK STROKE T;cWG;cXG;cBXG;cSW;cHZZ;cHZG;cHP;cHZWG;cSZWG;cHZT
cHZZP;cHPWG;cHZW;cHZZZ;cN;cH;cS;cP;cSP;cD;cHZ;cHG;cSZ;cSWZ;cST;cSG;cPD;cPZ;cTN;cSZZ;cSWG;cHXWG;cHZZZG;cPG;cQ;>31F0
aKATAKANA LETTER SMALL KU;dSI;dSU;dTO;dNU;dHA;dHI;dHU;dHE;dHO;dMU;dRA;dRI;dRU;dRE;dRO;aPARENTHESIZED HANGUL KIYEOK;cNIEUN
cTIKEUT;cRIEUL;cMIEUM;cPIEUP;cSIOS;cIEUNG;cCIEUC;cCHIEUCH;cKHIEUKH;cTHIEUTH;cPHIEUPH;cHIEUH;cKIYEOK A;cNIEUN A;cTIKEUT A
cRIEUL A;cMIEUM A;cPIEUP A;cSIOS A;cIEUNG A;cCIEUC A;cCHIEUCH A;cKHIEUKH A;cTHIEUTH A;cPHIEUPH A;cHIEUH A;cCIEUC U
bKOREAN CHARACTER OJEON;dO HU;>3220;bIDEOGRAPH ONE;cTWO;cTHREE;cFOUR;cFIVE;cSIX;cSEVEN;cEIGHT;cNINE;cTEN;cMOON;cFIRE;cWATER
cWOOD;cMETAL;cEARTH;cSUN;cSTOCK;cHAVE;cSOCIETY;cNAME;cSPECIAL;cFINANCIAL;cCONGRATULATION;cLABOR;cREPRESENT;cCALL;cSTUDY
cSUPERVISE;cENTERPRISE;cRESOURCE;cALLIANCE;cFESTIVAL;cREST;cSELF;cREACH;aCIRCLED IDEOGRAPH QUESTION;cKINDERGARTEN;cSCHOOL;cKOTO
bNUMBER TEN ON BLACK SQUARE;cTWENTY ON BLACK SQUARE;cTHIRTY ON BLACK SQUARE;cFORTY ON BLACK SQUARE;cFIFTY ON BLACK SQUARE
cSIXTY ON BLACK SQUARE;cSEVENTY ON BLACK SQUARE;cEIGHTY ON BLACK SQUARE;aPARTNERSHIP SIGN;aCIRCLED NUMBER TWENTY ONE;dTWO;dTHREE
dFOUR;dFIVE;dSIX;dSEVEN;dEIGHT;dNINE;cTHIRTY;dONE;dTWO;dTHREE;dFOUR;dFIVE;bHANGUL KIYEOK;cNIEUN;cTIKEUT;cRIEUL;cMIEUM;cPIEUP
cSIOS;cIEUNG;cCIEUC;cCHIEUCH;cKHIEUKH;cTHIEUTH;cPHIEUPH;cHIEUH;cKIYEOK A;cNIEUN A;cTIKEUT A;cRIEUL A;cMIEUM A;cPIEUP A;cSIOS A
cIEUNG A;cCIEUC A;cCHIEUCH A;cKHIEUKH A;cTHIEUTH A;cPHIEUPH A;cHIEUH A;bKOREAN CHARACTER CHAMKO;dJUEUI;bHANGUL IEUNG U
aKOREAN STANDARD SYMBOL;aCIRCLED IDEOGRAPH ONE;cTWO;cTHREE;cFOUR;cFIVE;cSIX;cSEVEN;cEIGHT;cNINE;cTEN;cMOON;cFIRE;cWATER;cWOOD
cMETAL;cEARTH;cSUN;cSTOCK;cHAVE;cSOCIETY;cNAME;cSPECIAL;cFINANCIAL;cCONGRATULATION;cLABOR;cSECRET;cMALE;cFEMALE;cSUITABLE
cEXCELLENT;cPRINT;cATTENTION;cITEM;cREST;cCOPY;cCORRECT;cHIGH;cCENTRE;cLOW;cLEFT;cRIGHT;cMEDICINE;cRELIGION;cSTUDY;cSUPERVISE
cENTERPRISE;cRESOURCE;cALLIANCE;cNIGHT;bNUMBER THIRTY SIX;dSEVEN;dEIGHT;dNINE;cFORTY;dONE;dTWO;dTHREE;dFOUR;dFIVE;dSIX;dSEVEN
dEIGHT;dNINE;cFIFTY;aIDEOGRAPHIC TELEGRAPH SYMBOL FOR JANUARY;eFEBRUARY;eMARCH;eAPRIL;eMAY;eJUNE;eJULY;eAUGUST;eSEPTEMBER
eOCTOBER;eNOVEMBER;eDECEMBER;aSQUARE HG;bERG;bEV;aLIMITED LIABILITY SIGN;aCIRCLED KATAKANA A;cI;cU;cE;cO;cKA;cKI;cKU;cKE;cKO;cSA
cSI;cSU;cSE;cSO;cTA;cTI;cTU;cTE;cTO;cNA;cNI;cNU;cNE;cNO;cHA;cHI;cHU;cHE;cHO;cMA;cMI;cMU;cME;cMO;cYA;cYU;cYO;cRA;cRI;cRU;cRE;cRO
cWA;cWI;cWE;cWO;aSQUARE ERA NAME REIWA;bAPAATO;bARUHUA;bANPEA;bAARU;bININGU;bINTI;bUON;bESUKUUDO;bEEKAA;bONSU;bOOMU;bKAIRI
bKARATTO;bKARORII;bGARON;bGANMA;bGIGA;bGINII;bKYURII;bGIRUDAA;bKIRO;bKIROGURAMU;bKIROMEETORU;bKIROWATTO;bGURAMU;bGURAMUTON
bKURUZEIRO;bKUROONE;bKEESU;bKORUNA;bKOOPO;bSAIKURU;bSANTIIMU;bSIRINGU;bSENTI;bSENTO;bDAASU;bDESI;bDORU;bTON;bNANO;bNOTTO;bHAITU
bPAASENTO;bPAATU;bBAARERU;bPIASUTORU;bPIKURU;bPIKO;bBIRU;bHUARADDO;bHUIITO;bBUSSYERU;bHURAN;bHEKUTAARU;bPESO;bPENIHI;bHERUTU
bPENSU;bPEEZI;bBEETA;bPOINTO;bBORUTO;bHON;bPONDO;bHOORU;bHOON;bMAIKURO;bMAIRU;bMAHHA;bMARUKU;bMANSYON;bMIKURON;bMIRI;bMIRIBAARU
bMEGA;bMEGATON;bMEETORU;bYAADO;bYAARU;bYUAN;bRITTORU;bRIRA;bRUPII;bRUUBURU;bREMU;bRENTOGEN;bWATTO
aIDEOGRAPHIC TELEGRAPH SYMBOL FOR HOUR ZERO;fONE;fTWO;fTHREE;fFOUR;fFIVE;fSIX;fSEVEN;fEIGHT;fNINE;fTEN;fELEVEN;fTWELVE;fTHIRTEEN
fFOURTEEN;fFIFTEEN;fSIXTEEN;fSEVENTEEN;fEIGHTEEN;fNINETEEN;fTWENTY;fTWENTY-ONE;fTWENTY-TWO;fTWENTY-THREE;fTWENTY-FOUR
aSQUARE HPA;bDA;bAU;bBAR;bOV;bPC;bDM;cSQUARED;cCUBED;bIU;bERA NAME HEISEI;dSYOUWA;dTAISYOU;dMEIZI;bCORPORATION;bPA AMPS;bNA
bMU A;bMA;bKA;bKB;bMB;bGB;bCAL;bKCAL;bPF;bNF;bMU F;cG;bMG;bKG;bHZ;bKHZ;bMHZ;bGHZ;bTHZ;bMU L;bML;bDL;bKL;bFM;bNM;bMU M;bMM;bCM
bKM;bMM SQUARED;bCM SQUARED;bM SQUARED;bKM SQUARED;bMM CUBED;bCM CUBED;bM CUBED;bKM CUBED;bM OVER S;eSQUARED;bPA;bKPA;bMPA;bGPA
bRAD;cOVER S;eSQUARED;bPS;bNS;bMU S;bMS;bPV;bNV;bMU V;bMV;bKV;bMV MEGA;bPW;bNW;bMU W;bMW;bKW;bMW MEGA;bK OHM;bM OHM;bAM;bBQ;bCC
bCD;bC OVER KG;bCO;bDB;bGY;bHA;bHP;bIN;bKK;bKM CAPITAL;bKT;bLM;bLN;bLOG;bLX;bMB SMALL;bMIL;bMOL;bPH;bPM;bPPM;bPR;bSR;bSV;bWB
bV OVER M;bA OVER M;aIDEOGRAPHIC TELEGRAPH SYMBOL FOR DAY ONE;fTWO;fTHREE;fFOUR;fFIVE;fSIX;fSEVEN;fEIGHT;fNINE;fTEN;fELEVEN
fTWELVE;fTHIRTEEN;fFOURTEEN;fFIFTEEN;fSIXTEEN;fSEVENTEEN;fEIGHTEEN;fNINETEEN;fTWENTY;fTWENTY-ONE;fTWENTY-TWO;fTWENTY-THREE
fTWENTY-FOUR;fTWENTY-FIVE;fTWENTY-SIX;fTWENTY-SEVEN;fTWENTY-EIGHT;fTWENTY-NINE;fTHIRTY;fTHIRTY-ONE;aSQUARE GAL;>4DC0
aHEXAGRAM FOR THE CREATIVE HEAVEN;dRECEPTIVE EARTH;cDIFFICULTY AT THE BEGINNING;cYOUTHFUL FOLLY;cWAITING;cCONFLICT;cTHE ARMY
cHOLDING TOGETHER;cSMALL TAMING;cTREADING;cPEACE;cSTANDSTILL;cFELLOWSHIP;cGREAT POSSESSION;cMODESTY;cENTHUSIASM;cFOLLOWING
cWORK ON THE DECAYED;cAPPROACH;cCONTEMPLATION;cBITING THROUGH;cGRACE;cSPLITTING APART;cRETURN;cINNOCENCE;cGREAT TAMING
cMOUTH CORNERS;cGREAT PREPONDERANCE;cTHE ABYSMAL WATER;dCLINGING FIRE;cINFLUENCE;cDURATION;cRETREAT;cGREAT POWER;cPROGRESS
cDARKENING OF THE LIGHT;cTHE FAMILY;cOPPOSITION;cOBSTRUCTION;cDELIVERANCE;cDECREASE;cINCREASE;cBREAKTHROUGH;cCOMING TO MEET
cGATHERING TOGETHER;cPUSHING UPWARD;cOPPRESSION;cTHE WELL;cREVOLUTION;cTHE CAULDRON;dAROUSING THUNDER;dKEEPING STILL MOUNTAIN
cDEVELOPMENT;cTHE MARRYING MAIDEN;cABUNDANCE;cTHE WANDERER;dGENTLE WIND;dJOYOUS LAKE;cDISPERSION;cLIMITATION;cINNER TRUTH
cSMALL PREPONDERANCE;cAFTER COMPLETION;cBEFORE COMPLETION"

end AwkEdit.Text
