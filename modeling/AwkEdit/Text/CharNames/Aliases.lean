/-!
# Names of characters: aliases

The format of the table is told in `AwkEdit.Text.CharNames.Lookup`.
-/

namespace AwkEdit.Text

/-- The names that characters have besides the first one: corrections, and the names of control characters. -/
def aliasNames : String := "
>0;aNULL;>0;aNUL;aSTART OF HEADING;>1;aSOH;aSTART OF TEXT;>2;aSTX;aEND OF TEXT;>3;aETX;aEND OF TRANSMISSION;>4;aEOT;aENQUIRY;>5
aENQ;aACKNOWLEDGE;>6;aACK;aALERT;>7;aBEL;aBACKSPACE;>8;aBS;aCHARACTER TABULATION;>9;aHORIZONTAL TABULATION;>9;aHT;>9;aTAB
aLINE FEED;>A;aNEW LINE;>A;aEND OF LINE;>A;aLF;>A;aNL;>A;aEOL;aLINE TABULATION;>B;aVERTICAL TABULATION;>B;aVT;aFORM FEED;>C;aFF
aCARRIAGE RETURN;>D;aCR;aSHIFT OUT;>E;aLOCKING-SHIFT ONE;>E;aSO;aSHIFT IN;>F;aLOCKING-SHIFT ZERO;>F;aSI;aDATA LINK ESCAPE;>10
aDLE;aDEVICE CONTROL ONE;>11;aDC1;aDEVICE CONTROL TWO;>12;aDC2;aDEVICE CONTROL THREE;>13;aDC3;aDEVICE CONTROL FOUR;>14;aDC4
aNEGATIVE ACKNOWLEDGE;>15;aNAK;aSYNCHRONOUS IDLE;>16;aSYN;aEND OF TRANSMISSION BLOCK;>17;aETB;aCANCEL;>18;aCAN;aEND OF MEDIUM
>19;aEOM;aSUBSTITUTE;>1A;aSUB;aESCAPE;>1B;aESC;aINFORMATION SEPARATOR FOUR;>1C;aFILE SEPARATOR;>1C;aFS
aINFORMATION SEPARATOR THREE;>1D;aGROUP SEPARATOR;>1D;aGS;aINFORMATION SEPARATOR TWO;>1E;aRECORD SEPARATOR;>1E;aRS
aINFORMATION SEPARATOR ONE;>1F;aUNIT SEPARATOR;>1F;aUS;aSP;>7F;aDELETE;>7F;aDEL;aPADDING CHARACTER;>80;aPAD;aHIGH OCTET PRESET
>81;aHOP;aBREAK PERMITTED HERE;>82;aBPH;aNO BREAK HERE;>83;aNBH;aINDEX;>84;aIND;aNEXT LINE;>85;aNEL;aSTART OF SELECTED AREA;>86
aSSA;aEND OF SELECTED AREA;>87;aESA;aCHARACTER TABULATION SET;>88;aHORIZONTAL TABULATION SET;>88;aHTS
aCHARACTER TABULATION WITH JUSTIFICATION;>89;aHORIZONTAL TABULATION WITH JUSTIFICATION;>89;aHTJ;aLINE TABULATION SET;>8A
aVERTICAL TABULATION SET;>8A;aVTS;aPARTIAL LINE FORWARD;>8B;cDOWN;>8B;aPLD;aPARTIAL LINE BACKWARD;>8C;cUP;>8C;aPLU
aREVERSE LINE FEED;>8D;bINDEX;>8D;aRI;aSINGLE SHIFT TWO;>8E;aSINGLE-SHIFT-2;>8E;aSS2;aSINGLE SHIFT THREE;>8F;aSINGLE-SHIFT-3;>8F
aSS3;aDEVICE CONTROL STRING;>90;aDCS;aPRIVATE USE ONE;>91;bUSE-1;>91;aPU1;aPRIVATE USE TWO;>92;bUSE-2;>92;aPU2
aSET TRANSMIT STATE;>93;aSTS;aCANCEL CHARACTER;>94;aCCH;aMESSAGE WAITING;>95;aMW;aSTART OF GUARDED AREA;>96;cPROTECTED AREA;>96
aSPA;aEND OF GUARDED AREA;>97;cPROTECTED AREA;>97;aEPA;aSTART OF STRING;>98;aSOS;aSINGLE GRAPHIC CHARACTER INTRODUCER;>99;aSGC
aSINGLE CHARACTER INTRODUCER;>9A;aSCI;aCONTROL SEQUENCE INTRODUCER;>9B;aCSI;aSTRING TERMINATOR;>9C;aST;aOPERATING SYSTEM COMMAND
>9D;aOSC;aPRIVACY MESSAGE;>9E;aPM;aAPPLICATION PROGRAM COMMAND;>9F;aAPC;aNBSP;>AD;aSHY;>1A2;aLATIN CAPITAL LETTER GHA
bSMALL LETTER GHA;>34F;aCGJ;>61C;aALM;>709;aSYRIAC SUBLINEAR COLON SKEWED LEFT;>CDE;aKANNADA LETTER LLLA;>E9D;aLAO LETTER FO FON
>E9F;dFAY;>EA3;cRO;>EA5;cLO;>FD0;aTIBETAN MARK BKA- SHOG GI MGO RGYAN;>11EC;aHANGUL JONGSEONG YESIEUNG-KIYEOK
cYESIEUNG-SSANGKIYEOK;cSSANGYESIEUNG;cYESIEUNG-KHIEUKH;>180B;aFVS1;aFVS2;aFVS3;aMVS;aFVS4;>200B;aZWSP;aZWNJ;aZWJ;aLRM;aRLM;>202A
aLRE;aRLE;aPDF;aLRO;aRLO;aNNBSP;>205F;aMMSP;aWJ;>2066;aLRI;aRLI;aFSI;aPDI;>2118;aWEIERSTRASS ELLIPTIC FUNCTION;>2448
aMICR ON US SYMBOL;bDASH SYMBOL;>2B7A;aLEFTWARDS TRIANGLE-HEADED ARROW WITH DOUBLE VERTICAL STROKE;>2B7C
aRIGHTWARDS TRIANGLE-HEADED ARROW WITH DOUBLE VERTICAL STROKE;>A015;aYI SYLLABLE ITERATION MARK;>AA6E;aMYANMAR LETTER KHAMTI LLA
>FE00;aVS1;aVS2;aVS3;aVS4;aVS5;aVS6;aVS7;aVS8;aVS9;aVS10;aVS11;aVS12;aVS13;aVS14;aVS15;aVS16;>FE18
aPRESENTATION FORM FOR VERTICAL RIGHT WHITE LENTICULAR BRACKET;>FEFF;aBYTE ORDER MARK;>FEFF;aBOM;>FEFF;aZWNBSP;>122D4
aCUNEIFORM SIGN NU11 TENU;dOVER NU11 BUR OVER BUR;>16E56;aMEDEFAIDRIN CAPITAL LETTER H;dNG;>16E76;bSMALL LETTER H;dNG;>1B001
aHENTAIGANA LETTER E-1;>1D0C5;aBYZANTINE MUSICAL SYMBOL FTHORA SKLIRON CHROMA VASIS;>E0100;aVS17;aVS18;aVS19;aVS20;aVS21;aVS22
aVS23;aVS24;aVS25;aVS26;aVS27;aVS28;aVS29;aVS30;aVS31;aVS32;aVS33;aVS34;aVS35;aVS36;aVS37;aVS38;aVS39;aVS40;aVS41;aVS42;aVS43
aVS44;aVS45;aVS46;aVS47;aVS48;aVS49;aVS50;aVS51;aVS52;aVS53;aVS54;aVS55;aVS56;aVS57;aVS58;aVS59;aVS60;aVS61;aVS62;aVS63;aVS64
aVS65;aVS66;aVS67;aVS68;aVS69;aVS70;aVS71;aVS72;aVS73;aVS74;aVS75;aVS76;aVS77;aVS78;aVS79;aVS80;aVS81;aVS82;aVS83;aVS84;aVS85
aVS86;aVS87;aVS88;aVS89;aVS90;aVS91;aVS92;aVS93;aVS94;aVS95;aVS96;aVS97;aVS98;aVS99;aVS100;aVS101;aVS102;aVS103;aVS104;aVS105
aVS106;aVS107;aVS108;aVS109;aVS110;aVS111;aVS112;aVS113;aVS114;aVS115;aVS116;aVS117;aVS118;aVS119;aVS120;aVS121;aVS122;aVS123
aVS124;aVS125;aVS126;aVS127;aVS128;aVS129;aVS130;aVS131;aVS132;aVS133;aVS134;aVS135;aVS136;aVS137;aVS138;aVS139;aVS140;aVS141
aVS142;aVS143;aVS144;aVS145;aVS146;aVS147;aVS148;aVS149;aVS150;aVS151;aVS152;aVS153;aVS154;aVS155;aVS156;aVS157;aVS158;aVS159
aVS160;aVS161;aVS162;aVS163;aVS164;aVS165;aVS166;aVS167;aVS168;aVS169;aVS170;aVS171;aVS172;aVS173;aVS174;aVS175;aVS176;aVS177
aVS178;aVS179;aVS180;aVS181;aVS182;aVS183;aVS184;aVS185;aVS186;aVS187;aVS188;aVS189;aVS190;aVS191;aVS192;aVS193;aVS194;aVS195
aVS196;aVS197;aVS198;aVS199;aVS200;aVS201;aVS202;aVS203;aVS204;aVS205;aVS206;aVS207;aVS208;aVS209;aVS210;aVS211;aVS212;aVS213
aVS214;aVS215;aVS216;aVS217;aVS218;aVS219;aVS220;aVS221;aVS222;aVS223;aVS224;aVS225;aVS226;aVS227;aVS228;aVS229;aVS230;aVS231
aVS232;aVS233;aVS234;aVS235;aVS236;aVS237;aVS238;aVS239;aVS240;aVS241;aVS242;aVS243;aVS244;aVS245;aVS246;aVS247;aVS248;aVS249
aVS250;aVS251;aVS252;aVS253;aVS254;aVS255;aVS256"

end AwkEdit.Text
