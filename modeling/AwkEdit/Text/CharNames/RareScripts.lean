/-!
# Names of characters: rare scripts

The format of the table is told in `AwkEdit.Text.CharNames.Lookup`.
-/

namespace AwkEdit.Text

/-- The names of rare scripts, from U+14000 to U+1CFFF. -/
def rareScriptsNames : String := "
>14400;aANATOLIAN HIEROGLYPH A001;cA002;cA003;cA004;cA005;cA006;cA007;cA008;cA009;cA010;cA010A;cA011;cA012;cA013;cA014;cA015
cA016;cA017;cA018;cA019;cA020;cA021;cA022;cA023;cA024;cA025;cA026;cA026A;cA027;cA028;cA029;cA030;cA031;cA032;cA033;cA034;cA035
cA036;cA037;cA038;cA039;cA039A;cA040;cA041;cA041A;cA042;cA043;cA044;cA045;cA045A;cA046;cA046A;cA046B;cA047;cA048;cA049;cA050
cA051;cA052;cA053;cA054;cA055;cA056;cA057;cA058;cA059;cA060;cA061;cA062;cA063;cA064;cA065;cA066;cA066A;cA066B;cA066C;cA067;cA068
cA069;cA070;cA071;cA072;cA073;cA074;cA075;cA076;cA077;cA078;cA079;cA080;cA081;cA082;cA083;cA084;cA085;cA086;cA087;cA088;cA089
cA090;cA091;cA092;cA093;cA094;cA095;cA096;cA097;cA097A;cA098;cA098A;cA099;cA100;cA100A;cA101;cA101A;cA102;cA102A;cA103;cA104
cA104A;cA104B;cA104C;cA105;cA105A;cA105B;cA106;cA107;cA107A;cA107B;cA107C;cA108;cA109;cA110;cA110A;cA110B;cA111;cA112;cA113
cA114;cA115;cA115A;cA116;cA117;cA118;cA119;cA120;cA121;cA122;cA123;cA124;cA125;cA125A;cA126;cA127;cA128;cA129;cA130;cA131;cA132
cA133;cA134;cA135;cA135A;cA136;cA137;cA138;cA139;cA140;cA141;cA142;cA143;cA144;cA145;cA146;cA147;cA148;cA149;cA150;cA151;cA152
cA153;cA154;cA155;cA156;cA157;cA158;cA159;cA160;cA161;cA162;cA163;cA164;cA165;cA166;cA167;cA168;cA169;cA170;cA171;cA172;cA173
cA174;cA175;cA176;cA177;cA178;cA179;cA180;cA181;cA182;cA183;cA184;cA185;cA186;cA187;cA188;cA189;cA190;cA191;cA192;cA193;cA194
cA195;cA196;cA197;cA198;cA199;cA200;cA201;cA202;cA202A;cA202B;cA203;cA204;cA205;cA206;cA207;cA207A;cA208;cA209;cA209A;cA210
cA211;cA212;cA213;cA214;cA215;cA215A;cA216;cA216A;cA217;cA218;cA219;cA220;cA221;cA222;cA223;cA224;cA225;cA226;cA227;cA227A;cA228
cA229;cA230;cA231;cA232;cA233;cA234;cA235;cA236;cA237;cA238;cA239;cA240;cA241;cA242;cA243;cA244;cA245;cA246;cA247;cA248;cA249
cA250;cA251;cA252;cA253;cA254;cA255;cA256;cA257;cA258;cA259;cA260;cA261;cA262;cA263;cA264;cA265;cA266;cA267;cA267A;cA268;cA269
cA270;cA271;cA272;cA273;cA274;cA275;cA276;cA277;cA278;cA279;cA280;cA281;cA282;cA283;cA284;cA285;cA286;cA287;cA288;cA289;cA289A
cA290;cA291;cA292;cA293;cA294;cA294A;cA295;cA296;cA297;cA298;cA299;cA299A;cA300;cA301;cA302;cA303;cA304;cA305;cA306;cA307;cA308
cA309;cA309A;cA310;cA311;cA312;cA313;cA314;cA315;cA316;cA317;cA318;cA319;cA320;cA321;cA322;cA323;cA324;cA325;cA326;cA327;cA328
cA329;cA329A;cA330;cA331;cA332A;cA332B;cA332C;cA333;cA334;cA335;cA336;cA336A;cA336B;cA336C;cA337;cA338;cA339;cA340;cA341;cA342
cA343;cA344;cA345;cA346;cA347;cA348;cA349;cA350;cA351;cA352;cA353;cA354;cA355;cA356;cA357;cA358;cA359;cA359A;cA360;cA361;cA362
cA363;cA364;cA364A;cA365;cA366;cA367;cA368;cA368A;cA369;cA370;cA371;cA371A;cA372;cA373;cA374;cA375;cA376;cA377;cA378;cA379;cA380
cA381;cA381A;cA382;cA383 RA OR RI;cA383A;cA384;cA385;cA386;cA386A;cA387;cA388;cA389;cA390;cA391;cA392;cA393 EIGHT;cA394;cA395
cA396;cA397;cA398;cA399;cA400;cA401;cA402;cA403;cA404;cA405;cA406;cA407;cA408;cA409;cA410 BEGIN LOGOGRAM MARK
cA410A END LOGOGRAM MARK;cA411;cA412;cA413;cA414;cA415;cA416;cA417;cA418;cA419;cA420;cA421;cA422;cA423;cA424;cA425;cA426;cA427
cA428;cA429;cA430;cA431;cA432;cA433;cA434;cA435;cA436;cA437;cA438;cA439;cA440;cA441;cA442;cA443;cA444;cA445;cA446;cA447;cA448
cA449;cA450;cA450A;cA451;cA452;cA453;cA454;cA455;cA456;cA457;cA457A;cA458;cA459;cA460;cA461;cA462;cA463;cA464;cA465;cA466;cA467
cA468;cA469;cA470;cA471;cA472;cA473;cA474;cA475;cA476;cA477;cA478;cA479;cA480;cA481;cA482;cA483;cA484;cA485;cA486;cA487;cA488
cA489;cA490;cA491;cA492;cA493;cA494;cA495;cA496;cA497;cA501;cA502;cA503;cA504;cA505;cA506;cA507;cA508;cA509;cA510;cA511;cA512
cA513;cA514;cA515;cA516;cA517;cA518;cA519;cA520;cA521;cA522;cA523;cA524;cA525;cA526;cA527;cA528;cA529;cA530;>16800
aBAMUM LETTER PHASE-A NGKUE MFON;dGBIEE FON;dPON MFON PIPAEMGBIEE;fPIPAEMBA;dNAA MFON;dSHUENSHUET;dTITA MFON;dNZA MFON
dSHINDA PA NJI;dPON PA NJI PIPAEMGBIEE;gPIPAEMBA;dMAEMBGBIEE;dTU MAEMBA;dNGANGU;dMAEMVEUX;dMANSUAE;dMVEUAENGAM;dSEUNYAM;dNTOQPEN
dKEUKEUTNDA;dNKINDI;dSUU;dNGKUENZEUM;dLAPAQ;dLET KUT;dNTAP MFAA;dMAEKEUP;dPASHAE;dGHEUAERAE;dPAMSHAE;dMON NGGEUAET;dNZUN MEUT
dU YUQ NAE;dGHEUAEGHEUAE;dNTAP NTAA;dSISA;dMGBASA;dMEUNJOMNDEUQ;dMOOMPUQ;dKAFA;dPA LEERAEWA;dNDA LEERAEWA;dPET;dMAEMKPEN;dNIKA
dPUP;dTUAEP;dLUAEP;dSONJAM;dTEUTEUWEN;dMAENYI;dKET;dNDAANGGEUAET;dKUOQ;dMOOMEUT;dSHUM;dLOMMAE;dFIRI;dROM;dKPOQ;dSOQ;dMAP PIEET
dSHIRAE;dNTAP;dSHOQ NSHUT YUM;dNYIT MONGKEUAEQ;dPAARAE;dNKAARAE;dUNKNOWN;dNGGEN;dMAESI;dNJAM;dMBANYI;dNYET;dTEUAEN;dSOT;dPAAM
dNSHIEE;dMAEM;dNYI;dKAQ;dNSHA;dVEE;dLU;dNEN;dNAQ;dMBAQ;cPHASE-B NSHUET;dTU MAEMGBIEE;dSIEE;dSET TU;dLOM NTEUM;dMBA MAELEE;dKIEEM
dYEURAE;dMBAARAE;dKAM;dPEESHI;dYAFU LEERAEWA;dLAM NSHUT NYAM;dNTIEE SHEUOQ;dNDU NJAA;dGHEUGHEUAEM;dPIT;dTU NSIEE;dSHET NJAQ
dSHEUAEQTU;dMFON TEUAEQ;dMBIT MBAAKET;dNYI NTEUM;dKEUPUQ;dGHEUGHEN;dKEUYEUX;dLAANAE;dPARUM;dVEUM;dNGKINDI MVOP;dNGGEU MBU;dWUAET
dSAKEUAE;dTAAM;dMEUQ;dNGGUOQ;eLARGE;dMFIYAQ;dSUE;dMBEURI;dMONTIEEN;dNYAEMAE;dPUNGAAM;dMEUT NGGEET;dFEUX;dMBUOQ;dFEE;dKEUAEM
dMA NJEUAENA;eNJUQA;dLET;dNGGAAM;dNSEN;dMA;dKIQ;dNGOM;cPHASE-C NGKUE MAEMBA;dNZA;dYUM;dWANGKUOQ;dNGGEN;dNDEUAEREE;dNGKAQ;dGHARAE
dMBEEKEET;dGBAYI;dNYIR MKPARAQ MEUN;dNTU MBIT;dMBEUM;dPIRIEEN;dNDOMBU;dMBAA CABBAGE-TREE;dKEUSHEUAEP;dGHAP;dKEUKAQ;dYU MUOMAE
dNZEUM;dMBUE;dNSEUAEN;dMBIT;dYEUQ;dKPARAQ;dKAA;dSEUX;dNDIDA;dTAASHAE;dNJUEQ;dTITA YUE;dSUAET;dNGGUAEN NYAM;dVEUX;dNANSANAQ
dMA KEUAERI;dNTAA;dNGGUON;dLAP;dMBIRIEEN;dMGBASAQ;dNTEUNGBA;dTEUTEUX;dNGGUM;dFUE;dNDEUT;dNSA;dNSHAQ;dBUNG;dVEUAEPEN;dMBERAE;dRU
dNJAEM;dLAM;dTITUAEP;dNSUOT NGOM;dNJEEEE;dKET;dNGGU;dMAESI;dMBUAEM;dLU;dKUT;dNJAM;dNGOM;dWUP;dNGGUEET;dNSOM;dNTEN;dKUOP NKAARAE
dNSUN;dNDAM;dMA NSIEE;dYAA;dNDAP;dSHUEQ;dSETFON;dMBI;dMAEMBA;dMBANYI;dKEUSEUX;dMBEUX;dKEUM;dMBAA PICKET;dYUWOQ;dNJEUX;dMIEE
dMUAE;dSHIQ;dKEN LAW;eFATIGUE;dNGAQ;dNAQ;dLIQ;dPIN;dPEN;dTET;cPHASE-D MBUO;dWAP;dNJI;dMFON;dNJIEE;dLIEE;dNJEUT;dNSHEE;dNGGAAMAE
dNYAM;dWUAEN;dNGKUN;dSHEE;dNGKAP;dKEUAETMEUN;dTEUT;dSHEUAE;dNJAP;dSUE;dKET;dYAEMMAE;dKUOM;dSAP;dMFEUT;dNDEUX;dMALEERI;dMEUT
dSEUAEQ;dYEN;dNJEUAEM;dKEUOT MBUAE;dNGKEURI;dTU;dGHAA;dNGKYEE;dFEUFEUAET;dNDEE;dMGBOFUM;dLEUAEP;dNDON;dMONI;dMGBEUN;dPUUT
dMGBIEE;dMFO;dLUM;dNSIEEP;dMBAA;dKWAET;dNYET;dTEUAEN;dSOT;dYUWOQ;dKEUM;dRAEM;dTEEEE;dNGKEUAEQ;dMFEUAE;dNSIEET;dKEUP;dPIP;dPEUTAE
dNYUE;dLET;dNGGAAM;dMFIEE;dNGGWAEN;dYUOM;dPAP;dYUOP;dNDAM;dNTEUM;dSUAE;dKUN;dNGGEUX;dNGKIEE;dTUOT;dMEUN;dKUQ;dNSUM;dTEUN
dMAENJET;dNGGAP;dLEUM;dNGGUOM;dNSHUT;dNJUEQ;dGHEUAE;dKU;dREN OLD;dTAE;dTOQ;dNYI;dRII;dLEEEE;dMEEEE;dM;dSUU;dMU;dSHII;dSHEUX
dKYEE;dNU;dSHU;dNTEE;dPEE;dNI;dSHOQ;dPUQ;dMVOP;dLOQ;dREN MUCH;dTI;dNTUU;dMBAA SEVEN;dSAQ;dFAA;cPHASE-E NDAP;dTOON;dMBEUM;dLAP
dVOM;dLOON;dPAA;dSOM;dRAQ;dNSHUOP;dNDUN;dPUAE;dTAM;dNGKA;dKPEUX;dWUO;dSEE;dNGGEUAET;dPAAM;dTOO;dKUOP;dLOM;dNSHIEE;dNGOP;dMAEM
dNGKEUX;dNGOQ;dNSHUE;dRIMGBA;dNJEUX;dPEEM;dSAA;dNGGURAE;dMGBA;dGHEUX;dNGKEUAEM;dNJAEMLI;dMAP;dLOOT;dNGGEEEE;dNDIQ;dTAEN NTEUM
dSET;dPUM;dNDAA SOFTNESS;dNGGUAESHAE NYAM;dYIEE;dGHEUN;dTUAE;dYEUAE;dPO;dTUMAE;dKEUAE;dSUAEN;dTEUAEQ;dVEUAE;dWEUX;dLAAM;dPU
dTAAQ;dGHAAMAE;dNGEUREUT;dSHEUAEQ;dMGBEN;dMBEE;dNZAQ;dNKOM;dGBET;dTUM;dKUET;dYAP;dNYI CLEAVER;dYIT;dMFEUQ;dNDIAQ;dPIEEQ;dYUEQ
dLEUAEM;dFUE;dGBEUX;dNGKUP;dKET;dMAE;dNGKAAMI;dGHET;dFA;dNTUM;dPEUT;dYEUM;dNGGEUAE;dNYI BETWEEN;dNZUQ;dPOON;dMIEE;dFUET;dNAE
dMUAE;dGHEUAE;dFU I;dMVI;dPUAQ;dNGKUM;dKUT;dPIET;dNTAP;dYEUAET;dNGGUP;dPA PEOPLE;dFU CALL;dFOM;dNJEE;dA;dTOQ;dO;dI;dLAQ
dPA PLURAL;dTAA;dTAQ;dNDAA MY HOUSE;dSHIQ;dYEUX;dNGUAE;dYUAEN;dYOQ SWIMMING;eCOVER;dYUQ;dYUN;dKEUX;dPEUX;dNJEE EPOCH;dPUE;dWUE
dFEE;dVEE;dLU;dMI;dREUX;dRAE;dNGUAET;dNGA;dSHO;dSHOQ;dFU REMEDY;dNA;dPI;dLOQ;dKO;dMEN;dMA;dMAQ;dTEU;dKI;dMON;dTEN;dFAQ;dGHOM
cPHASE-F KA;dU;dKU;dEE;dREE;dTAE;dNYI;dLA;dRII;dRIEE;dMEEEE;dTAA;dNDAA;dNJAEM;dM;dSUU;dSHII;dSI;dSEUX;dKYEE;dKET;dNUAE;dNU
dNJUAE;dYOQ;dSHU;dYA;dNSHA;dPEUX;dNTEE;dWUE;dPEE;dRU;dNI;dREUX;dKEN;dNGKWAEN;dNGGA;dSHO;dPUAE;dFOM;dWA;dLI;dLOQ;dKO;dMBEN;dREN
dMA;dMO;dMBAA;dTET;dKPA;dSAMBA;dVUEQ;>16A40;aMRO LETTER TA;cNGI;cYO;cMIM;cBA;cDA;cA;cPHI;cKHAI;cHAO;cDAI;cCHU;cKEAAE;cOL;cMAEM
cNIN;cPA;cOO;cO;cRO;cSHI;cTHEA;cEA;cWA;cE;cKO;cLAN;cLA;cHAI;cRI;cTEK;>16A60;bDIGIT ZERO;cONE;cTWO;cTHREE;cFOUR;cFIVE;cSIX;cSEVEN
cEIGHT;cNINE;>16A6E;bDANDA;bDOUBLE DANDA;aTANGSA LETTER OZ;cOC;cOQ;cOX;cAZ;cAC;cAQ;cAX;cVZ;cVC;cVQ;cVX;cEZ;cEC;cEQ;cEX;cIZ;cIC
cIQ;cIX;cUZ;cUC;cUQ;cUX;cAWZ;cAWC;cAWQ;cAWX;cUIZ;cUIC;cUIQ;cUIX;cFINAL NG;cLONG UEX;cSHORT UEZ;dAWX;cUEC;cUEZ;cUEQ;cUEX;cUIUZ
cUIUC;cUIUQ;cUIUX;cMZ;cMC;cMQ;cMX;cKA;cKHA;cGA;cNGA;cSA;cYA;cWA;cPA;cNYA;cPHA;cBA;cMA;cNA;cHA;cLA;cHTA;cTA;cDA;cRA;cNHA;cSHA;cCA
cTSA;cGHA;cHTTA;cTHA;cXA;cFA;cDHA;cCHA;cZA;>16AC0;bDIGIT ZERO;cONE;cTWO;cTHREE;cFOUR;cFIVE;cSIX;cSEVEN;cEIGHT;cNINE;>16AD0
aBASSA VAH LETTER ENNI;dKA;dSE;dFA;dMBE;dYIE;dGAH;dDHII;dKPAH;dJO;dHWAH;dWA;dZO;dGBU;dDO;dCE;dUWU;dTO;dBA;dVU;dYEIN;dPA;dWADDA
dA;dO;dOO;dU;dEE;dE;dI;>16AF0;cCOMBINING HIGH TONE;dLOW TONE;dMID TONE;dLOW-MID TONE;dHIGH-LOW TONE;cFULL STOP;>16B00
aPAHAWH HMONG VOWEL KEEB;dKEEV;dKIB;dKIV;dKAUB;dKAUV;dKUB;dKUV;dKEB;dKEV;dKAIB;dKAIV;dKOOB;dKOOV;dKAWB;dKAWV;dKUAB;dKUAV;dKOB
dKOV;dKIAB;dKIAV;dKAB;dKAV;dKWB;dKWV;dKAAB;dKAAV;cCONSONANT VAU;dNTSAU;dLAU;dHAU;dNLAU;dRAU;dNKAU;dQHAU;dYAU;dHLAU;dMAU;dCHAU
dNCHAU;dHNAU;dPLHAU;dNTHAU;dNAU;dAU;dXAU;dCAU;cMARK CIM TUB;eSO;eKES;eKHAV;eSUAM;eHOM;eTAUM;cSIGN VOS THOM;eTSHAB CEEB
dCIM CHEEM;dVOS THIAB;eFEEM;dXYEEM NTXIV;eRHO;eTOV;eFAIB;dVOS SEEV;dMEEJ SUAB;dVOS NRUA;dIB YAM;dXAUS;dCIM TSOV ROG;>16B50
cDIGIT ZERO;dONE;dTWO;dTHREE;dFOUR;dFIVE;dSIX;dSEVEN;dEIGHT;dNINE;>16B5B;cNUMBER TENS;dHUNDREDS;dTEN THOUSANDS;dMILLIONS
dHUNDRED MILLIONS;dTEN BILLIONS;dTRILLIONS;>16B63;cSIGN VOS LUB;dXYOO;dHLI;dTHIRD-STAGE HLI;dZWJ THAJ;dHNUB;dNQIG;dXIAB;dNTUJ
dAV;dTXHEEJ CEEV;dMEEJ TSEEB;dTAU;dLOS;dMUS;dCIM HAIS LUS NTOG NTOG;eCUAM TSHOOJ;eTXWV;fCHWV;ePUB DAWB;eNRES TOS;>16B7D
cCLAN SIGN TSHEEJ;eYEEG;eLIS;eLAUJ;eXYOOJ;eKOO;eHAWJ;eMUAS;eTHOJ;eTSAB;ePHAB;eKHAB;eHAM;eVAJ;eFAJ;eYAJ;eTSWB;eKWM;eVWJ;>16E40
aMEDEFAIDRIN CAPITAL LETTER M;dS;dV;dW;dATIU;dZ;dKP;dP;dT;dG;dF;dI;dK;dA;dJ;dE;dB;dC;dU;dYU;dL;dQ;dHP;dNY;dX;dD;dOE;dN;dR;dO;dAI
dY;bSMALL LETTER M;dS;dV;dW;dATIU;dZ;dKP;dP;dT;dG;dF;dI;dK;dA;dJ;dE;dB;dC;dU;dYU;dL;dQ;dHP;dNY;dX;dD;dOE;dN;dR;dO;dAI;dY
bDIGIT ZERO;cONE;cTWO;cTHREE;cFOUR;cFIVE;cSIX;cSEVEN;cEIGHT;cNINE;bNUMBER TEN;cELEVEN;cTWELVE;cTHIRTEEN;cFOURTEEN;cFIFTEEN
cSIXTEEN;cSEVENTEEN;cEIGHTEEN;cNINETEEN;bDIGIT ONE ALTERNATE FORM;cTWO ALTERNATE FORM;cTHREE ALTERNATE FORM;bCOMMA;bFULL STOP
bSYMBOL AIVA;bEXCLAMATION OH;>16F00;aMIAO LETTER PA;cBA;cYI PA;cPLA;cMA;cMHA;cARCHAIC MA;cFA;cVA;cVFA;cTA;cDA;cYI TTA;dTA;cTTA
cDDA;cNA;cNHA;cYI NNA;cARCHAIC NA;cNNA;cNNHA;cLA;cLYA;cLHA;cLHYA;cTLHA;cDLHA;cTLHYA;cDLHYA;cKA;cGA;cYI KA;cQA;cQGA;cNGA;cNGHA
cARCHAIC NGA;cHA;cXA;cGHA;cGHHA;cTSSA;cDZZA;cNYA;cNYHA;cTSHA;cDZHA;cYI TSHA;dDZHA;cREFORMED TSHA;cSHA;cSSA;cZHA;cZSHA;cTSA;cDZA
cYI TSA;cSA;cZA;cZSA;cZZA;cZZSA;cARCHAIC ZZA;cZZYA;cZZSYA;cWA;cAH;cHHA;cBRI;cSYI;cDZYI;cTE;cTSE;cRTE;>16F4F
bSIGN CONSONANT MODIFIER BAR;bLETTER NASALIZATION;bSIGN ASPIRATION;cREFORMED VOICING;dASPIRATION;bVOWEL SIGN A;dAA;dAHH;dAN;dANG
dO;dOO;dWO;dW;dE;dEN;dENG;dOEY;dI;dIA;dIAN;dIANG;dIO;dIE;dII;dIU;dING;dU;dUA;dUAN;dUANG;dUU;dUEI;dUNG;dY;dYI;dAE;dAEE;dERR
dROUNDED ERR;dER;dROUNDED ER;dAI;dEI;dAU;dOU;dN;dNG;dUOG;dYUI;dOG;dOER;dVW;dIG;dEA;dIONG;dUI;>16F8F;bTONE RIGHT;cTOP RIGHT
cABOVE;cBELOW;bLETTER TONE-2;cTONE-3;cTONE-4;cTONE-5;cTONE-6;cTONE-7;cTONE-8;cREFORMED TONE-1;dTONE-2;dTONE-4;dTONE-5;dTONE-6
dTONE-8;>16FE0;aTANGUT ITERATION MARK;aNUSHU ITERATION MARK;aOLD CHINESE HOOK MARK;cITERATION MARK;aKHITAN SMALL SCRIPT FILLER
>16FF0;aVIETNAMESE ALTERNATE READING MARK CA;eNHAY;>18800;aTANGUT COMPONENT-001;bCOMPONENT-002;bCOMPONENT-003;bCOMPONENT-004
bCOMPONENT-005;bCOMPONENT-006;bCOMPONENT-007;bCOMPONENT-008;bCOMPONENT-009;bCOMPONENT-010;bCOMPONENT-011;bCOMPONENT-012
bCOMPONENT-013;bCOMPONENT-014;bCOMPONENT-015;bCOMPONENT-016;bCOMPONENT-017;bCOMPONENT-018;bCOMPONENT-019;bCOMPONENT-020
bCOMPONENT-021;bCOMPONENT-022;bCOMPONENT-023;bCOMPONENT-024;bCOMPONENT-025;bCOMPONENT-026;bCOMPONENT-027;bCOMPONENT-028
bCOMPONENT-029;bCOMPONENT-030;bCOMPONENT-031;bCOMPONENT-032;bCOMPONENT-033;bCOMPONENT-034;bCOMPONENT-035;bCOMPONENT-036
bCOMPONENT-037;bCOMPONENT-038;bCOMPONENT-039;bCOMPONENT-040;bCOMPONENT-041;bCOMPONENT-042;bCOMPONENT-043;bCOMPONENT-044
bCOMPONENT-045;bCOMPONENT-046;bCOMPONENT-047;bCOMPONENT-048;bCOMPONENT-049;bCOMPONENT-050;bCOMPONENT-051;bCOMPONENT-052
bCOMPONENT-053;bCOMPONENT-054;bCOMPONENT-055;bCOMPONENT-056;bCOMPONENT-057;bCOMPONENT-058;bCOMPONENT-059;bCOMPONENT-060
bCOMPONENT-061;bCOMPONENT-062;bCOMPONENT-063;bCOMPONENT-064;bCOMPONENT-065;bCOMPONENT-066;bCOMPONENT-067;bCOMPONENT-068
bCOMPONENT-069;bCOMPONENT-070;bCOMPONENT-071;bCOMPONENT-072;bCOMPONENT-073;bCOMPONENT-074;bCOMPONENT-075;bCOMPONENT-076
bCOMPONENT-077;bCOMPONENT-078;bCOMPONENT-079;bCOMPONENT-080;bCOMPONENT-081;bCOMPONENT-082;bCOMPONENT-083;bCOMPONENT-084
bCOMPONENT-085;bCOMPONENT-086;bCOMPONENT-087;bCOMPONENT-088;bCOMPONENT-089;bCOMPONENT-090;bCOMPONENT-091;bCOMPONENT-092
bCOMPONENT-093;bCOMPONENT-094;bCOMPONENT-095;bCOMPONENT-096;bCOMPONENT-097;bCOMPONENT-098;bCOMPONENT-099;bCOMPONENT-100
bCOMPONENT-101;bCOMPONENT-102;bCOMPONENT-103;bCOMPONENT-104;bCOMPONENT-105;bCOMPONENT-106;bCOMPONENT-107;bCOMPONENT-108
bCOMPONENT-109;bCOMPONENT-110;bCOMPONENT-111;bCOMPONENT-112;bCOMPONENT-113;bCOMPONENT-114;bCOMPONENT-115;bCOMPONENT-116
bCOMPONENT-117;bCOMPONENT-118;bCOMPONENT-119;bCOMPONENT-120;bCOMPONENT-121;bCOMPONENT-122;bCOMPONENT-123;bCOMPONENT-124
bCOMPONENT-125;bCOMPONENT-126;bCOMPONENT-127;bCOMPONENT-128;bCOMPONENT-129;bCOMPONENT-130;bCOMPONENT-131;bCOMPONENT-132
bCOMPONENT-133;bCOMPONENT-134;bCOMPONENT-135;bCOMPONENT-136;bCOMPONENT-137;bCOMPONENT-138;bCOMPONENT-139;bCOMPONENT-140
bCOMPONENT-141;bCOMPONENT-142;bCOMPONENT-143;bCOMPONENT-144;bCOMPONENT-145;bCOMPONENT-146;bCOMPONENT-147;bCOMPONENT-148
bCOMPONENT-149;bCOMPONENT-150;bCOMPONENT-151;bCOMPONENT-152;bCOMPONENT-153;bCOMPONENT-154;bCOMPONENT-155;bCOMPONENT-156
bCOMPONENT-157;bCOMPONENT-158;bCOMPONENT-159;bCOMPONENT-160;bCOMPONENT-161;bCOMPONENT-162;bCOMPONENT-163;bCOMPONENT-164
bCOMPONENT-165;bCOMPONENT-166;bCOMPONENT-167;bCOMPONENT-168;bCOMPONENT-169;bCOMPONENT-170;bCOMPONENT-171;bCOMPONENT-172
bCOMPONENT-173;bCOMPONENT-174;bCOMPONENT-175;bCOMPONENT-176;bCOMPONENT-177;bCOMPONENT-178;bCOMPONENT-179;bCOMPONENT-180
bCOMPONENT-181;bCOMPONENT-182;bCOMPONENT-183;bCOMPONENT-184;bCOMPONENT-185;bCOMPONENT-186;bCOMPONENT-187;bCOMPONENT-188
bCOMPONENT-189;bCOMPONENT-190;bCOMPONENT-191;bCOMPONENT-192;bCOMPONENT-193;bCOMPONENT-194;bCOMPONENT-195;bCOMPONENT-196
bCOMPONENT-197;bCOMPONENT-198;bCOMPONENT-199;bCOMPONENT-200;bCOMPONENT-201;bCOMPONENT-202;bCOMPONENT-203;bCOMPONENT-204
bCOMPONENT-205;bCOMPONENT-206;bCOMPONENT-207;bCOMPONENT-208;bCOMPONENT-209;bCOMPONENT-210;bCOMPONENT-211;bCOMPONENT-212
bCOMPONENT-213;bCOMPONENT-214;bCOMPONENT-215;bCOMPONENT-216;bCOMPONENT-217;bCOMPONENT-218;bCOMPONENT-219;bCOMPONENT-220
bCOMPONENT-221;bCOMPONENT-222;bCOMPONENT-223;bCOMPONENT-224;bCOMPONENT-225;bCOMPONENT-226;bCOMPONENT-227;bCOMPONENT-228
bCOMPONENT-229;bCOMPONENT-230;bCOMPONENT-231;bCOMPONENT-232;bCOMPONENT-233;bCOMPONENT-234;bCOMPONENT-235;bCOMPONENT-236
bCOMPONENT-237;bCOMPONENT-238;bCOMPONENT-239;bCOMPONENT-240;bCOMPONENT-241;bCOMPONENT-242;bCOMPONENT-243;bCOMPONENT-244
bCOMPONENT-245;bCOMPONENT-246;bCOMPONENT-247;bCOMPONENT-248;bCOMPONENT-249;bCOMPONENT-250;bCOMPONENT-251;bCOMPONENT-252
bCOMPONENT-253;bCOMPONENT-254;bCOMPONENT-255;bCOMPONENT-256;bCOMPONENT-257;bCOMPONENT-258;bCOMPONENT-259;bCOMPONENT-260
bCOMPONENT-261;bCOMPONENT-262;bCOMPONENT-263;bCOMPONENT-264;bCOMPONENT-265;bCOMPONENT-266;bCOMPONENT-267;bCOMPONENT-268
bCOMPONENT-269;bCOMPONENT-270;bCOMPONENT-271;bCOMPONENT-272;bCOMPONENT-273;bCOMPONENT-274;bCOMPONENT-275;bCOMPONENT-276
bCOMPONENT-277;bCOMPONENT-278;bCOMPONENT-279;bCOMPONENT-280;bCOMPONENT-281;bCOMPONENT-282;bCOMPONENT-283;bCOMPONENT-284
bCOMPONENT-285;bCOMPONENT-286;bCOMPONENT-287;bCOMPONENT-288;bCOMPONENT-289;bCOMPONENT-290;bCOMPONENT-291;bCOMPONENT-292
bCOMPONENT-293;bCOMPONENT-294;bCOMPONENT-295;bCOMPONENT-296;bCOMPONENT-297;bCOMPONENT-298;bCOMPONENT-299;bCOMPONENT-300
bCOMPONENT-301;bCOMPONENT-302;bCOMPONENT-303;bCOMPONENT-304;bCOMPONENT-305;bCOMPONENT-306;bCOMPONENT-307;bCOMPONENT-308
bCOMPONENT-309;bCOMPONENT-310;bCOMPONENT-311;bCOMPONENT-312;bCOMPONENT-313;bCOMPONENT-314;bCOMPONENT-315;bCOMPONENT-316
bCOMPONENT-317;bCOMPONENT-318;bCOMPONENT-319;bCOMPONENT-320;bCOMPONENT-321;bCOMPONENT-322;bCOMPONENT-323;bCOMPONENT-324
bCOMPONENT-325;bCOMPONENT-326;bCOMPONENT-327;bCOMPONENT-328;bCOMPONENT-329;bCOMPONENT-330;bCOMPONENT-331;bCOMPONENT-332
bCOMPONENT-333;bCOMPONENT-334;bCOMPONENT-335;bCOMPONENT-336;bCOMPONENT-337;bCOMPONENT-338;bCOMPONENT-339;bCOMPONENT-340
bCOMPONENT-341;bCOMPONENT-342;bCOMPONENT-343;bCOMPONENT-344;bCOMPONENT-345;bCOMPONENT-346;bCOMPONENT-347;bCOMPONENT-348
bCOMPONENT-349;bCOMPONENT-350;bCOMPONENT-351;bCOMPONENT-352;bCOMPONENT-353;bCOMPONENT-354;bCOMPONENT-355;bCOMPONENT-356
bCOMPONENT-357;bCOMPONENT-358;bCOMPONENT-359;bCOMPONENT-360;bCOMPONENT-361;bCOMPONENT-362;bCOMPONENT-363;bCOMPONENT-364
bCOMPONENT-365;bCOMPONENT-366;bCOMPONENT-367;bCOMPONENT-368;bCOMPONENT-369;bCOMPONENT-370;bCOMPONENT-371;bCOMPONENT-372
bCOMPONENT-373;bCOMPONENT-374;bCOMPONENT-375;bCOMPONENT-376;bCOMPONENT-377;bCOMPONENT-378;bCOMPONENT-379;bCOMPONENT-380
bCOMPONENT-381;bCOMPONENT-382;bCOMPONENT-383;bCOMPONENT-384;bCOMPONENT-385;bCOMPONENT-386;bCOMPONENT-387;bCOMPONENT-388
bCOMPONENT-389;bCOMPONENT-390;bCOMPONENT-391;bCOMPONENT-392;bCOMPONENT-393;bCOMPONENT-394;bCOMPONENT-395;bCOMPONENT-396
bCOMPONENT-397;bCOMPONENT-398;bCOMPONENT-399;bCOMPONENT-400;bCOMPONENT-401;bCOMPONENT-402;bCOMPONENT-403;bCOMPONENT-404
bCOMPONENT-405;bCOMPONENT-406;bCOMPONENT-407;bCOMPONENT-408;bCOMPONENT-409;bCOMPONENT-410;bCOMPONENT-411;bCOMPONENT-412
bCOMPONENT-413;bCOMPONENT-414;bCOMPONENT-415;bCOMPONENT-416;bCOMPONENT-417;bCOMPONENT-418;bCOMPONENT-419;bCOMPONENT-420
bCOMPONENT-421;bCOMPONENT-422;bCOMPONENT-423;bCOMPONENT-424;bCOMPONENT-425;bCOMPONENT-426;bCOMPONENT-427;bCOMPONENT-428
bCOMPONENT-429;bCOMPONENT-430;bCOMPONENT-431;bCOMPONENT-432;bCOMPONENT-433;bCOMPONENT-434;bCOMPONENT-435;bCOMPONENT-436
bCOMPONENT-437;bCOMPONENT-438;bCOMPONENT-439;bCOMPONENT-440;bCOMPONENT-441;bCOMPONENT-442;bCOMPONENT-443;bCOMPONENT-444
bCOMPONENT-445;bCOMPONENT-446;bCOMPONENT-447;bCOMPONENT-448;bCOMPONENT-449;bCOMPONENT-450;bCOMPONENT-451;bCOMPONENT-452
bCOMPONENT-453;bCOMPONENT-454;bCOMPONENT-455;bCOMPONENT-456;bCOMPONENT-457;bCOMPONENT-458;bCOMPONENT-459;bCOMPONENT-460
bCOMPONENT-461;bCOMPONENT-462;bCOMPONENT-463;bCOMPONENT-464;bCOMPONENT-465;bCOMPONENT-466;bCOMPONENT-467;bCOMPONENT-468
bCOMPONENT-469;bCOMPONENT-470;bCOMPONENT-471;bCOMPONENT-472;bCOMPONENT-473;bCOMPONENT-474;bCOMPONENT-475;bCOMPONENT-476
bCOMPONENT-477;bCOMPONENT-478;bCOMPONENT-479;bCOMPONENT-480;bCOMPONENT-481;bCOMPONENT-482;bCOMPONENT-483;bCOMPONENT-484
bCOMPONENT-485;bCOMPONENT-486;bCOMPONENT-487;bCOMPONENT-488;bCOMPONENT-489;bCOMPONENT-490;bCOMPONENT-491;bCOMPONENT-492
bCOMPONENT-493;bCOMPONENT-494;bCOMPONENT-495;bCOMPONENT-496;bCOMPONENT-497;bCOMPONENT-498;bCOMPONENT-499;bCOMPONENT-500
bCOMPONENT-501;bCOMPONENT-502;bCOMPONENT-503;bCOMPONENT-504;bCOMPONENT-505;bCOMPONENT-506;bCOMPONENT-507;bCOMPONENT-508
bCOMPONENT-509;bCOMPONENT-510;bCOMPONENT-511;bCOMPONENT-512;bCOMPONENT-513;bCOMPONENT-514;bCOMPONENT-515;bCOMPONENT-516
bCOMPONENT-517;bCOMPONENT-518;bCOMPONENT-519;bCOMPONENT-520;bCOMPONENT-521;bCOMPONENT-522;bCOMPONENT-523;bCOMPONENT-524
bCOMPONENT-525;bCOMPONENT-526;bCOMPONENT-527;bCOMPONENT-528;bCOMPONENT-529;bCOMPONENT-530;bCOMPONENT-531;bCOMPONENT-532
bCOMPONENT-533;bCOMPONENT-534;bCOMPONENT-535;bCOMPONENT-536;bCOMPONENT-537;bCOMPONENT-538;bCOMPONENT-539;bCOMPONENT-540
bCOMPONENT-541;bCOMPONENT-542;bCOMPONENT-543;bCOMPONENT-544;bCOMPONENT-545;bCOMPONENT-546;bCOMPONENT-547;bCOMPONENT-548
bCOMPONENT-549;bCOMPONENT-550;bCOMPONENT-551;bCOMPONENT-552;bCOMPONENT-553;bCOMPONENT-554;bCOMPONENT-555;bCOMPONENT-556
bCOMPONENT-557;bCOMPONENT-558;bCOMPONENT-559;bCOMPONENT-560;bCOMPONENT-561;bCOMPONENT-562;bCOMPONENT-563;bCOMPONENT-564
bCOMPONENT-565;bCOMPONENT-566;bCOMPONENT-567;bCOMPONENT-568;bCOMPONENT-569;bCOMPONENT-570;bCOMPONENT-571;bCOMPONENT-572
bCOMPONENT-573;bCOMPONENT-574;bCOMPONENT-575;bCOMPONENT-576;bCOMPONENT-577;bCOMPONENT-578;bCOMPONENT-579;bCOMPONENT-580
bCOMPONENT-581;bCOMPONENT-582;bCOMPONENT-583;bCOMPONENT-584;bCOMPONENT-585;bCOMPONENT-586;bCOMPONENT-587;bCOMPONENT-588
bCOMPONENT-589;bCOMPONENT-590;bCOMPONENT-591;bCOMPONENT-592;bCOMPONENT-593;bCOMPONENT-594;bCOMPONENT-595;bCOMPONENT-596
bCOMPONENT-597;bCOMPONENT-598;bCOMPONENT-599;bCOMPONENT-600;bCOMPONENT-601;bCOMPONENT-602;bCOMPONENT-603;bCOMPONENT-604
bCOMPONENT-605;bCOMPONENT-606;bCOMPONENT-607;bCOMPONENT-608;bCOMPONENT-609;bCOMPONENT-610;bCOMPONENT-611;bCOMPONENT-612
bCOMPONENT-613;bCOMPONENT-614;bCOMPONENT-615;bCOMPONENT-616;bCOMPONENT-617;bCOMPONENT-618;bCOMPONENT-619;bCOMPONENT-620
bCOMPONENT-621;bCOMPONENT-622;bCOMPONENT-623;bCOMPONENT-624;bCOMPONENT-625;bCOMPONENT-626;bCOMPONENT-627;bCOMPONENT-628
bCOMPONENT-629;bCOMPONENT-630;bCOMPONENT-631;bCOMPONENT-632;bCOMPONENT-633;bCOMPONENT-634;bCOMPONENT-635;bCOMPONENT-636
bCOMPONENT-637;bCOMPONENT-638;bCOMPONENT-639;bCOMPONENT-640;bCOMPONENT-641;bCOMPONENT-642;bCOMPONENT-643;bCOMPONENT-644
bCOMPONENT-645;bCOMPONENT-646;bCOMPONENT-647;bCOMPONENT-648;bCOMPONENT-649;bCOMPONENT-650;bCOMPONENT-651;bCOMPONENT-652
bCOMPONENT-653;bCOMPONENT-654;bCOMPONENT-655;bCOMPONENT-656;bCOMPONENT-657;bCOMPONENT-658;bCOMPONENT-659;bCOMPONENT-660
bCOMPONENT-661;bCOMPONENT-662;bCOMPONENT-663;bCOMPONENT-664;bCOMPONENT-665;bCOMPONENT-666;bCOMPONENT-667;bCOMPONENT-668
bCOMPONENT-669;bCOMPONENT-670;bCOMPONENT-671;bCOMPONENT-672;bCOMPONENT-673;bCOMPONENT-674;bCOMPONENT-675;bCOMPONENT-676
bCOMPONENT-677;bCOMPONENT-678;bCOMPONENT-679;bCOMPONENT-680;bCOMPONENT-681;bCOMPONENT-682;bCOMPONENT-683;bCOMPONENT-684
bCOMPONENT-685;bCOMPONENT-686;bCOMPONENT-687;bCOMPONENT-688;bCOMPONENT-689;bCOMPONENT-690;bCOMPONENT-691;bCOMPONENT-692
bCOMPONENT-693;bCOMPONENT-694;bCOMPONENT-695;bCOMPONENT-696;bCOMPONENT-697;bCOMPONENT-698;bCOMPONENT-699;bCOMPONENT-700
bCOMPONENT-701;bCOMPONENT-702;bCOMPONENT-703;bCOMPONENT-704;bCOMPONENT-705;bCOMPONENT-706;bCOMPONENT-707;bCOMPONENT-708
bCOMPONENT-709;bCOMPONENT-710;bCOMPONENT-711;bCOMPONENT-712;bCOMPONENT-713;bCOMPONENT-714;bCOMPONENT-715;bCOMPONENT-716
bCOMPONENT-717;bCOMPONENT-718;bCOMPONENT-719;bCOMPONENT-720;bCOMPONENT-721;bCOMPONENT-722;bCOMPONENT-723;bCOMPONENT-724
bCOMPONENT-725;bCOMPONENT-726;bCOMPONENT-727;bCOMPONENT-728;bCOMPONENT-729;bCOMPONENT-730;bCOMPONENT-731;bCOMPONENT-732
bCOMPONENT-733;bCOMPONENT-734;bCOMPONENT-735;bCOMPONENT-736;bCOMPONENT-737;bCOMPONENT-738;bCOMPONENT-739;bCOMPONENT-740
bCOMPONENT-741;bCOMPONENT-742;bCOMPONENT-743;bCOMPONENT-744;bCOMPONENT-745;bCOMPONENT-746;bCOMPONENT-747;bCOMPONENT-748
bCOMPONENT-749;bCOMPONENT-750;bCOMPONENT-751;bCOMPONENT-752;bCOMPONENT-753;bCOMPONENT-754;bCOMPONENT-755;bCOMPONENT-756
bCOMPONENT-757;bCOMPONENT-758;bCOMPONENT-759;bCOMPONENT-760;bCOMPONENT-761;bCOMPONENT-762;bCOMPONENT-763;bCOMPONENT-764
bCOMPONENT-765;bCOMPONENT-766;bCOMPONENT-767;bCOMPONENT-768;>1AFF0;aKATAKANA LETTER MINNAN TONE-2;dTONE-3;dTONE-4;dTONE-5;>1AFF5
dTONE-7;dTONE-8;dNASALIZED TONE-1;eTONE-2;eTONE-3;eTONE-4;eTONE-5;>1AFFD;eTONE-7;eTONE-8;>1B000;cARCHAIC E
aHIRAGANA LETTER ARCHAIC YE;aHENTAIGANA LETTER A-1;cA-2;cA-3;cA-WO;cI-1;cI-2;cI-3;cI-4;cU-1;cU-2;cU-3;cU-4;cU-5;cE-2;cE-3;cE-4
cE-5;cE-6;cO-1;cO-2;cO-3;cKA-1;cKA-2;cKA-3;cKA-4;cKA-5;cKA-6;cKA-7;cKA-8;cKA-9;cKA-10;cKA-11;cKA-KE;cKI-1;cKI-2;cKI-3;cKI-4
cKI-5;cKI-6;cKI-7;cKI-8;cKU-1;cKU-2;cKU-3;cKU-4;cKU-5;cKU-6;cKU-7;cKE-1;cKE-2;cKE-3;cKE-4;cKE-5;cKE-6;cKO-1;cKO-2;cKO-3;cKO-KI
cSA-1;cSA-2;cSA-3;cSA-4;cSA-5;cSA-6;cSA-7;cSA-8;cSI-1;cSI-2;cSI-3;cSI-4;cSI-5;cSI-6;cSU-1;cSU-2;cSU-3;cSU-4;cSU-5;cSU-6;cSU-7
cSU-8;cSE-1;cSE-2;cSE-3;cSE-4;cSE-5;cSO-1;cSO-2;cSO-3;cSO-4;cSO-5;cSO-6;cSO-7;cTA-1;cTA-2;cTA-3;cTA-4;cTI-1;cTI-2;cTI-3;cTI-4
cTI-5;cTI-6;cTI-7;cTU-1;cTU-2;cTU-3;cTU-4;cTU-TO;cTE-1;cTE-2;cTE-3;cTE-4;cTE-5;cTE-6;cTE-7;cTE-8;cTE-9;cTO-1;cTO-2;cTO-3;cTO-4
cTO-5;cTO-6;cTO-RA;cNA-1;cNA-2;cNA-3;cNA-4;cNA-5;cNA-6;cNA-7;cNA-8;cNA-9;cNI-1;cNI-2;cNI-3;cNI-4;cNI-5;cNI-6;cNI-7;cNI-TE;cNU-1
cNU-2;cNU-3;cNE-1;cNE-2;cNE-3;cNE-4;cNE-5;cNE-6;cNE-KO;cNO-1;cNO-2;cNO-3;cNO-4;cNO-5;cHA-1;cHA-2;cHA-3;cHA-4;cHA-5;cHA-6;cHA-7
cHA-8;cHA-9;cHA-10;cHA-11;cHI-1;cHI-2;cHI-3;cHI-4;cHI-5;cHI-6;cHI-7;cHU-1;cHU-2;cHU-3;cHE-1;cHE-2;cHE-3;cHE-4;cHE-5;cHE-6;cHE-7
cHO-1;cHO-2;cHO-3;cHO-4;cHO-5;cHO-6;cHO-7;cHO-8;cMA-1;cMA-2;cMA-3;cMA-4;cMA-5;cMA-6;cMA-7;cMI-1;cMI-2;cMI-3;cMI-4;cMI-5;cMI-6
cMI-7;cMU-1;cMU-2;cMU-3;cMU-4;cME-1;cME-2;cME-MA;cMO-1;cMO-2;cMO-3;cMO-4;cMO-5;cMO-6;cYA-1;cYA-2;cYA-3;cYA-4;cYA-5;cYA-YO;cYU-1
cYU-2;cYU-3;cYU-4;cYO-1;cYO-2;cYO-3;cYO-4;cYO-5;cYO-6;cRA-1;cRA-2;cRA-3;cRA-4;cRI-1;cRI-2;cRI-3;cRI-4;cRI-5;cRI-6;cRI-7;cRU-1
cRU-2;cRU-3;cRU-4;cRU-5;cRU-6;cRE-1;cRE-2;cRE-3;cRE-4;cRO-1;cRO-2;cRO-3;cRO-4;cRO-5;cRO-6;cWA-1;cWA-2;cWA-3;cWA-4;cWA-5;cWI-1
cWI-2;cWI-3;cWI-4;cWI-5;cWE-1;cWE-2;cWE-3;cWE-4;cWO-1;cWO-2;cWO-3;cWO-4;cWO-5;cWO-6;cWO-7;cN-MU-MO-1;cN-MU-MO-2
aHIRAGANA LETTER ARCHAIC WU;aKATAKANA LETTER ARCHAIC YI;dYE;dWU;>1B150;aHIRAGANA LETTER SMALL WI;dWE;dWO;>1B164
aKATAKANA LETTER SMALL WI;dWE;dWO;dN;>1BC00;aDUPLOYAN LETTER H;cX;cP;cT;cF;cK;cL;cB;cD;cV;cG;cR;cP N;cD S;cF N;cK M;cR S;cTH
cSLOAN DH;cDH;cKK;cSLOAN J;cHL;cLH;cRH;cM;cN;cJ;cS;cM N;cN M;cJ M;cS J;cM WITH DOT;cN WITH DOT;cJ WITH DOT
eDOTS INSIDE AND ABOVE;cS WITH DOT;fBELOW;cM S;cN S;cJ S;cS S;cM N S;cN M S;cJ M S;cS J S;cJ S WITH DOT;dN;eS;cS T;eR;dP;eR;cT S
dR S;cW;cWH;cW R;cS N;dM;cK R S;cG R S;cS K;eR;cA;cSLOAN OW;cOA;cO;cAOU;cI;cE;cIE;cSHORT I;cUI;cEE;cSLOAN EH;cROMANIAN I
cSLOAN EE;cLONG I;cYE;cU;cEU;cXW;cU N;cLONG U;cROMANIAN U;cUH;cSLOAN U;cOOH;cOW;cOU;cWA;cWO;cWI;cWEI;cWOW;cNASAL U;dO;dI;dA
cPERNIN AN;dAM;cSLOAN EN;dAN;dON;cVOCALIC M;>1BC70;bAFFIX LEFT HORIZONTAL SECANT;cMID HORIZONTAL SECANT;cRIGHT HORIZONTAL SECANT
cLOW VERTICAL SECANT;cMID VERTICAL SECANT;cHIGH VERTICAL SECANT;cATTACHED SECANT;dLEFT-TO-RIGHT SECANT;dTANGENT;dTAIL;dE HOOK
dI HOOK;dTANGENT HOOK;>1BC80;cHIGH ACUTE;dTIGHT ACUTE;dGRAVE;dLONG GRAVE;dDOT;dCIRCLE;dLINE;dWAVE;dVERTICAL;>1BC90;cLOW ACUTE
dTIGHT ACUTE;dGRAVE;dLONG GRAVE;dDOT;dCIRCLE;dLINE;dWAVE;dVERTICAL;dARROW;>1BC9C;bSIGN O WITH CROSS;bTHICK LETTER SELECTOR
bDOUBLE MARK;bPUNCTUATION CHINOOK FULL STOP;aSHORTHAND FORMAT LETTER OVERLAP;cCONTINUING OVERLAP;cDOWN STEP;cUP STEP;>1CF00
aZNAMENNY COMBINING MARK GORAZDO NIZKO S KRYZHEM ON LEFT;dNIZKO S KRYZHEM ON LEFT;dTSATA ON LEFT;dGORAZDO NIZKO ON LEFT
dNIZKO ON LEFT;dSREDNE ON LEFT;dMALO POVYSHE ON LEFT;dPOVYSHE ON LEFT;dVYSOKO ON LEFT;dMALO POVYSHE S KHOKHLOM ON LEFT
dPOVYSHE S KHOKHLOM ON LEFT;dVYSOKO S KHOKHLOM ON LEFT;dGORAZDO NIZKO S KRYZHEM ON RIGHT;dNIZKO S KRYZHEM ON RIGHT
dTSATA ON RIGHT;dGORAZDO NIZKO ON RIGHT;dNIZKO ON RIGHT;dSREDNE ON RIGHT;dMALO POVYSHE ON RIGHT;dPOVYSHE ON RIGHT
dVYSOKO ON RIGHT;dMALO POVYSHE S KHOKHLOM ON RIGHT;dPOVYSHE S KHOKHLOM ON RIGHT;dVYSOKO S KHOKHLOM ON RIGHT;dTSATA S KRYZHEM
dMALO POVYSHE S KRYZHEM;dSTRANNO MALO POVYSHE;dPOVYSHE S KRYZHEM;eSTRANNO;dVYSOKO S KRYZHEM;dMALO POVYSHE STRANNO
dGORAZDO VYSOKO;dZELO;dON;dRAVNO;dTIKHAYA;dBORZAYA;dUDARKA;dPODVERTKA;dLOMKA;dKUPNAYA;dKACHKA;dZEVOK;dSKOBA;dRAZSEKA
dKRYZH ON LEFT;>1CF30;cTONAL RANGE MARK MRACHNO;fSVETLO;fTRESVETLO;cMARK ZADERZHKA;dDEMESTVENNY ZADERZHKA;dOTSECHKA;dPODCHASHIE
eWITH VERTICAL STROKE;dCHASHKA;ePOLNAYA;dOBLACHKO;dSOROCHYA NOZHKA;dTOCHKA;dDVOETOCHIE;cATTACHING VERTICAL OMET
cMARK CURVED OMET;dKRYZH;cLOWER TONAL RANGE INDICATOR;bPRIZNAK MODIFIER LEVEL-2;dLEVEL-3;dDIRECTION FLIP;dKRYZH;dROG;>1CF50
bNEUME KRYUK;dTIKHY;cPARAKLIT;cDVA V CHELNU;cKLYUCH;cZANOZHEK;cSTOPITSA;dS OCHKOM;cPEREVODKA;dNEPOSTOYANNAYA
cSTOPITSA WITH SOROCHYA NOZHKA;cCHELYUSTKA;cPALKA;cZAPYATAYA;cGOLUBCHIK BORZY;dTIKHY;dMRACHNY;dSVETLY;dTRESVETLY
cVRAKHIYA PROSTAYA;dMRACHNAYA;dSVETLAYA;dTRESVETLAYA;dKLYUCHEVAYA PROSTAYA;eMRACHNAYA;eSVETLAYA;eTRESVETLAYA;cDOUBLE ZAPYATAYA
cREVERSED CHELYUSTKA;cDERBITSA;cKHAMILO;cCHASHKA;cPODCHASHIE;cSKAMEYTSA MRACHNAYA;dSVETLAYA;dTRESVETLAYA;dTIKHAYA
cDEMESTVENNY KLYUCH;cSKAMEYTSA KLYUCHEVAYA SVETLAYA;dKLYUCHENEPOSTOYANNAYA;dKLYUCHEVAYA TIKHAYA;dDVOECHELNAYA PROSTAYA;eSVETLAYA
eNEPOSTOYANNAYA;eKLYUCHEVAYA;cSLOZHITIE;dS ZAPYATOY;dZAKRYTOE;dS KRYZHEM;cKRYZH;cROG;cFITA;cKOBYLA;cZMEYTSA;cSTATYA;dS ZAPYATOY
eKRYZHEM;eZAPYATOY I KRYZHEM;eKRYZHEM I ZAPYATOY;dZAKRYTAYA;eS ZAPYATOY;dS ROGOM;eDVUMYA ZAPYATYMI;eZAPYATOY I PODCHASHIEM
cPOLKULIZMY;cSTATYA NEPOSTOYANNAYA;cSTRELA PROSTAYA;dMRACHNOTIKHAYA;dKRYZHEVAYA;dPOLUPOVODNAYA;dPOVODNAYA;dNEPOSTOYANNAYA
dKLYUCHEPOVODNAYA;dKLYUCHENEPOSTOYANNAYA;dTIKHAYA PUTNAYA;dDVOECHELNAYA;dDVOECHELNOKRYZHEVAYA;dDVOECHELNOPOVODNAYA
dDVOECHELNAYA KLYUCHEVAYA;dDVOECHELNOPOVODNAYA KLYUCHEVAYA;dGROMNAYA WITH SINGLE ZAPYATAYA;dGROMOPOVODNAYA WITH SINGLE ZAPYATAYA
dGROMNAYA;dGROMOPOVODNAYA;eWITH DOUBLE ZAPYATAYA;dGROMOKRYZHEVAYA;ePOVODNAYA;cMECHIK;dPOVODNY;dKLYUCHEVOY;dKLYUCHEPOVODNY
dKLYUCHENEPOSTOYANNY;cSTRELA TRYASOGLASNAYA;dTRYASOPOVODNAYA;dTRYASOSTRELNAYA;cOSOKA;dSVETLAYA;dTRESVETLAYA;dKRYUKOVAYA SVETLAYA
dKLYUCHEVAYA SVETLAYA;eNEPOSTOYANNAYA;cSTRELA KRYUKOVAYA;ePOVODNAYA;eGROMNAYA WITH SINGLE ZAPYATAYA
eGROMOPOVODNAYA WITH SINGLE ZAPYATAYA;eGROMNAYA;eGROMOPOVODNAYA;fWITH DOUBLE ZAPYATAYA;eGROMOKRYZHEVAYA;fPOVODNAYA;eTRYASKA
cKUFISMA;cOBLAKO;cDUDA;cNEMKA;cPAUK"

end AwkEdit.Text
