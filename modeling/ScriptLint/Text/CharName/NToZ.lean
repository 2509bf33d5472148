/-!
# Names of characters, N to Z

The names are written as trees: what several names start with is written once, before a
group of what follows it.  Small letters and marks are signs for what is often repeated.
A tree is given in lines, which may end anywhere.
-/

namespace ScriptLint.Text

def charNamesN : List String :=
  ["N(-iYeC(IRCsDeDOT OPnATOR,PLUS OPnATOR,&M^ OPnATORaOP_DUCTakTnSEC&p,LOGICmeqD,ORaP_DUC?S(QUiEek",
   "TnSEC&p OPnATOR,UNIp OPnATORaUMMA&pa&M^ OPnATOR,UNIp!OPnATOR leDO?PLUShWHITE ψ BiaA(B:TAEqeCRUC",
   "IFORM NUMBn FOUR,δA(sPH,YkaBE<,DmE<,FkmemEPH,BE<,HjKAPH,LAMyH,MEM,NUN,SHk,YODHaGIMEL,HEc<aKAPH,",
   "LAMyH,MEM,NUN,PjQOPH,R^H,S:(DHjMEKHaHkaT:W,E<aWAW,YODH,ZAYkaNUMBneF(IVjOURapE!HUNDRyaT(x,HREjW(",
   "xTY,O)@LvI(L POLISH,]taK,ME BADGjNDckAGiIeHEADST_KjδAcf[κvL*LvMfN*GfNfYvO,P*HvR*RvS*HfSvT*HfT*H",
   "AhUcUaV*OCmIC RcRhYvSIGNeA(NUSVifVAG]HvSIDDHAM,VI(]MfSiGAhVOWELteA*[UajIcIaO,PRISH<AMAT] jUcUaV",
   "OCmIC RcR)@R_W NO-BREAK.PACj&pmeDIGIT.HAP^,PiKaUSEATy FACjZi AMUsTaB(H,SPaE(CK&jGAT(y ω ψ Bi ω ",
   "Rr TURNS&LjIVEeACKNOWsDGjCIRCsDeDIGIT ZnO,LATk CAPITm sTTn$aNUMBneE(rEx,sVxaF(IFTEx,OURTExaNkET",
   "Ex,S(EVxTEx,IXTExaT(HIRTEx,WE(LVjNTY@SQUijTRIqGsaDIAGpmeC_SS,DIAMpD,ξRr TO LOWn CxTR|SQUiyeAB,C",
   "_SS>,IC,LATk CAPITm sTTn$aPfQU^&p>,SfWC@I<neA(.U(BSET OF NOR EQUm TO,PnSET OF NOR EQUm TOaPP_XI",
   "MATELY NOR ACTUmLY EQUm TOaGREATn-<q NOReEQU(m TO,IVmxT TOasSS-<qasSS-<q NOReEQU(m TO,IVmxT TOa",
   "GREATn-<qhL,PTUNEcg TWOaRD FACjS(SUS,T( l EGGS,~ DOLLShUT(n,RmeCH^SeBISHOPβEQUIHOPPn!_TATy NkET",
   "Y DEGRE^aK(~βNr!_TATyeFORTY-FIVE DEGRE^,NkETY DEGRE^,pE HUNDRy <IRTY-FIVE DEGRE^,T(HREE HUNDRy ",
   "FIFTEx DEGRE^,WO HUNDRyeSEVxTY DEGRE^,TWxTY-FIVE DEGRE^))@PAWNβQUExβ_OKβTURNyeBISHOP,K(~,NraPAW",
   "N,QUEx,_OKhFACEhW(eLkjMOpeSYMBOL,l FAC|SHEQELt,TAI LUEeDdaZnOaδFkmeB,D,K,M,NcGaVaHIGHeBfDfFfHfK",
   "*VvLfMfN*GvP*HvQfS*UvT*HfSvVfX*VvYvLOWeBfDfFfHfK*VvLfMfN*GvP*HvQfS*UvT*HfSvVfX*VvYAhSIGN LAEcVa",
   "T(HAM DIGIT pjpE>-(1,2hVOWELteA:cYajYajI([YaOcAcYaYaUcEcYaU,YaVOWEL.HORTxn@AeABBREVIA&pt,COMMfD",
   "(qDfdaZnOaOUBseCOMMfDqDAhGAP FILLn,kSn&pt,δAcf[κvL*HvM*HvN*G*HvHfNfY*HAhO,P*HvR*HvS*HfSvT*HfT*H",
   "AhUcUaV(yIC qUSVifρ@WfYvOM,PLACEHOLDn>,S(qDHI>,I(DDH[GNeA(NUSVifVAG]HvCqD]BkDU,Fkm qUSVifJIHVAM",
   "ULIYfNUKTfUPADHMqIYfVI(]MfSiGA)@VOWELteA*[UajIcIaO,UcUaVρ)@LkEesF?RraSPAPnaXTeLkjPAGEhI(GHT l.T",
   "iS,NJvKOeCOM(Bk~eωυ +jLpGeD^CxD~ TpjHIGH TpjLOW TpjRIS~ Tp|NASmIZA&p>,SHORTeHIGH TpjLOW TpjRIS~",
   " TpEhMvD(qTAYmq,daZnOaO_MEtaEXCLAMA&p>,HIGH TpE APOST_PHjL:JqYmq,ETTnefBfCHfDAcGBASkNvEc|FfGBfH",
   "f[J*pAeCHfJf]hKfLfMfNcA!WOLOSOaYA!WOLOSOhOcOaPfR*RvSfTfU,WfYvOW TpE APOST_PH|SYMBOLeGBAKURUNx,O",
   "O DxNxaTAMqtaL,NBSP,O(eB(ICYCsS,REAK Hn|xTRYctaMOBIs PHp^,pE UNDn ErEx=,P(y^TRIqS,I]CYaSMOK~=a-",
   "BREAK.PACjMI(Nm DIGIT.HAP^,SMAtaN(-(BREAK~ HYPHx,POTABs WATn=aFORK~aRcDIC>t,Mm.UBG_UP OF!OR EQU",
   "m TOa<(eEASTeA(ND.OU< W^Tu,R_WceqD.OU< EASTu,C_SS~eNOR< W^Tu,SOU< EASTual λ@τu,ωu,POkT~eBUD,sAF",
   ",VkE sAFaSqS-SnIFu,TRIqGs-HEADyu!TO BiaWHITEuakDICeF]C&pepEeErH,HmF,QUiTn,SIXTEx<a<REEeQUiTnS,S",
   "IXTEx<ShPLACEHOLDn>,QUA(N&TY>,RTn>aRUPEE>aW^TeA(ND.OU< EASTu,R_WceqD NOR< EASTu,C_SS~ NOR< EAST",
   "u,TOeCORNn,LpG Bial λ@τu,ωu,POkT~eBUD,sAF,VkE sAFaSqS-SnIFu,TRIqGs-HEADyu!TO BiaWHITEuhEAST-POk",
   "T~ AIRPLqEhSjT(eA(.U(BSET OF,PnSET OFaLMOST EQUm TO,N EsMxT OF,SYMPTO&CmLY EQUm TOaCHECK>,EQU(m",
   " TO,IVmxT TOaGREATn-<q,IDx&Cm TO,sSS-<q,NORMm.UBG_UP OF!OR EQUm TOaPimsL TO,S(IGN,QUiEeIMAGE OF",
   " OR EQUm TO,ORIG(km OF OR EQUm TO@T(ILDjRUEhCHyeL(EFT.EMICIRCs l <REEυS,OWn Rr-SHADOWy WHITE Rr",
   "μuaRr.EMICIRCs l <REEυS,UPPn Rr-SHADOWy WHITE RrμuaE!PA(D,G|BOOK!l DECO]&VE COVn)@U(LcLaM(BneE(",
   "rEx FULL.TOP,sVx FULL.TOPaF(IFTEx FULL.TOP,OURTEx FULL.TOPaNkETEx FULL.TOP,S(EVxTEx FULL.TOP,I(",
   "GN,XTEx FULL.TOPhT(x FULL.TOP,HIRTEx FULL.TOP,WE(LVE FULL.TOP,NTY FULL.TOP@nOtaSHUeCHiACTn-1B(1",
   "(7w8w9wAwBwCwDwEwF(b,fB,C,D,jFh2(0w1w2w3w4w5w6w7w8w9wAwBwCwDwEwF(b,fB@ITnA&p>aT qD BOLTaYIAKxG ",
   "PUACHUE HMpGeCIRCsD CfDdaZnOaL(ETTneAcvCfD*LvEc|FfGfHAcHa[KfLfM*LvN*CfKfP*LvQfRfT*SfXvYvOcOaP*L",
   "vQfR*RvSfT*SfXvU,VfW,X*YvYfZvOGOG]M NYAJaS(IGNeFOReqIMm,kVnTEB]TjLOCA&p,PnSp,<~aXW XWaYLLABs sN",
   "G<xnaTpE-(B,D,G,J,M,S,V)))"]

def charNamesO : List String :=
  ["O(B(JECT REPLACEMxT CHiACTn,LIQUEeqGs OPx~eDOWN,UPaHYPHxaSnVn EYE=aC(ReAMOUNT OF CHECK,B(ELT BU",
   "CKLjOW &jRqCH BqK IDx&FICA&paC(HAIR,USTOMn ACCOUNT NUMBnaD:SH,OUBs BACKSLASHaFORK,λ,kVnTy FORKa",
   "T:Gpmt,OPUShDx,FFICE BUILD~,G(HAMeFEA<n>,δAILM,BEI<,C(EIR?OLLaDAIR,EA(BHADH,DHADH,MHqCHOLLaFEiN",
   ",GOR?I(Fk,ODHADHaLUIS,MUk,N(GEADm,IpaO(NN,RaPEI<,RUIS,S:IL,T]IFaTkNjU:<,ILsqN,RhREVnSy FEA<n>,S",
   "PACE>apEKaHMt,IL DRUM,K HqDt,L( CHIKIeAHAD,DdaZnOaGAAHLAA TTUDDAAG,δA:(J,K,M,WaG,L,NG,TaE(DD,N,",
   "P,RRaI(H,NY,R,SaL:cvj[O,UaO(B,H,T?VaU(C,D,NN,YhMU( TTUDDAG,-GAAHLAA TTUDDAAGaP(HAiKAfUNCTUA&peω",
   " MUCAAD,MUCAADhRELAvD(eCHk^Eeλ>,ITnA&p>aHUNGiIqeCAPITm δAcfK,MB,NDaCLOSE jEcB,CcH,SaD,jF,GcYaH,",
   "J,K,LcYaMcPaNcC,Tc-SHAPytaYaP,R,ScZaTcYaV,ZcShIcIaNIKOLSBURGeOjU|OcEjOaRUDIMxTAeOjU|SHORT n,UcN",
   "K,S,UhNUMBneFI(FTY,V|pEcεhTxaSMmL δAcfK,MB,NDaCLOSE jEcB,CcH,SaD,jF,GcYaH,J,K,LcYaMcPaNcC,Tc-SH",
   "APytaYaP,R,ScZaTcYaV,ZcShIcIaNIKOLSBURGeOjU|OcEjOaRUDIMxTAeOjU|SHORT n,UcNK,S,U@ITmICeδfBjCHjDj",
   "EcF,KS,L,M,N,RcSaScH,ShHjIcIaK*jHjUaNOR<nN TSjO,P(jH|S(HjOU<nN TS|T(jH|UcUaVjYjZ|NUMnmeFI(FTY,V",
   "|pjTxhKEY,NOR< iABIqeδA(k,sFaBEH,DA(D,La^-(1,2,3aFEH,G(EEM,HAkaH:H,EHaK:F,HAHaLAM,MEEM,NOp,QAF,",
   "REH,SAD,T:H,EH,H(m,EHhWAW,YEH,ZA(H,khNUMBnepjT(x,WxTY@Pn(MIC δq,BUR,CHnY,D(O[Z(HO[ITAhEcFaGA[Hf",
   "Icf|KOKjs[MxOjNxOjOcOaPEE[RE[S(H(CHOO[OOIaIIaT:[SIUaU,V(n,OOIaY:cTanc[UaRY,UaZ:TfHOIhS(IqeNUMBn",
   "eHUNDRy,pjT(x,W(xTY,O@SIGNeAcU]MAZDAAc-2,HAhB:cGvUUMISHaCfD:cHYAAUSHc-2h[UaFfG*UaHf[J*IaK*UaLfM",
   "*[UaN*UaPfR*UaS*HfSvT*HfUaU,V*IaX*SHAAYA<IYvYfZvWORD DIVIDnapm COMPUTnhSO(GDIqeF]C&p pE HmF,L(E",
   "TTneA(L(EPH,TnNATE AYkaYkaBE<,FkmemEPH,BE<,HjNUN!l ψ TAILaSADHE!l ψ TAILaTAW!l ψ TAILhGIMEL,HEc",
   "<aKAPH,LAMyH,MEM,NUN,PjR^H-AYk-DmE<,S:(DHjMEKHaHkaTAW,WAW,YODH,ZAYkaIGATURE AYk-DmE<aNUMBneF(IV",
   "jOURapE!HUNDRyaT(x,H(IRTY,RE|W(xTY,O)@U< iABIqeδA(sF,YNaBE<,D(mE<,HA(DHjs<hFjG(HAYN,IMELaHEc<aK",
   ":PH,HE<aLAMyH,MEM,NUN,QOPH,R^H,S:(DHjMEKH,TaHkaT:W,E<,H:W,E<hWAW,YODH,ZAYNaNUM(BneFIFTY,p|nIC k",
   "DICATOR@TURKIC δORKHpeAcB,D,E(B,D,G,K,L,N,R,S,?YaG,L,N,Q,R,ScHa?YaBASH,E(C,L?M,N(C,G,?YaP,SH,Za",
   "IcC,QaOcEcKaP,Q,ThYxISEIeAcB,D,EcB,G,K,NcGa?YaG,L,NG,Q,R,SH,?YaEcC,N(C,?YaSH,ZaIcQaO(EcKaQ@UYGH",
   "UReCOMBk~eDOTe+jzaTWOυSe+jzhδmEPH,BE<,Fkm HE<,GIMEL-HE<,KAPH,L:MyH,^HaMEM,NUN,PjR^H,S:(DHjMEKHa",
   "HkaTAW,WAW,YODH,ZAYkaPUNCTUA&peBi,FOURυS,TWOeBiS,DOTS)@neADUL?Mq,WOMqhIV|M=,N( l EXCLAMA&p> l s",
   "FT Rru +jCOM~eAUTOMOBILjBUS,FIRE xGkjPOLICE Ci,TAXIaE(eBUTTp MOUSjDOTesADn,OVn TWOυS PUNCTUA&ph",
   "-PIECE.WIMSUITaIpaP(E(N(eBO(OK,XaCxTREeASTnISK,τ.Ti,C_SS,TEiD_P-SPOKy ASTnISKaF(Is FOLDn,OLDnaH",
   "qDSt,LOCK,MAILBOX leLOWny FLAG,]ISy FLAGaSU(BSE?PnSETh-(CIRCUIT-OUTPUTeH-TYPE=,L-TYPE=aOUTLky R",
   "rμuh]T~.YSTEM COMMqDaHIUCHUS,POSI&p,&(Cm DISC!ICpap KEYhR( lυ kSIDjqG(EeBOOK,HEiTaUTqaI(Gkm OF,",
   "YAeA(I sNG<>,U sNG<>aDdaZnOaF]C&pepEeErH,HmF,QUiTn,SIXTEx<a<REEeQUiTnS,SIXTEx<ShISSHi,δAcf[κvL*",
   "LvMfN*GfNfYvO,P*HvR*HfRvS*HfSvT*HfT*HAhUcUaV*ρ@WfY*YAhSIGNeA(NUSVifVAG]HvCqD]BkDU,NUKTfOVnLkjVI",
   "(]MfSiGAhVOWELteA*[UajIcIaO,UcUaVρ))@NATEesFT Pix<^IS,Rr Pix<^ISa<ODOX C_SSaS:GEeCAPITm δAcH,Ic",
   "NhBRfCHfDHfEcH(CHfKfPfT*SAhkaGHfH*Yv[K*HfYvLfMfNfOckaPfS*HvT*S*HAhU,WfZ*HAhSMmL δAcH,IcNhBRfCHf",
   "DHfEcH(CHfKfPfT*SAhkaGHfH*Yv[K*HfYvLfMfNfOckaPfS*HvT*S*HAhU,WfZ*HA@C,MqYAeDdaZnOaδAcfsFaBfCAYN,",
   "D(EEL,HvEc|FfGfHf[JfK:AF,HvLAq,MIk,NUUN,OcOaQAAF,RfS*HIkaTfU,WAW,XfYA@TT(n,OMq.IYAQemTnNATE NUM",
   "BneEr,F(IVjOUR!HUNDRyhNkjS(EVx,IX!HUNDRyhT(x!<OUSqDaHREjWO!<OUSqD@F]C&p pEeHmF,SIX<aMi]Tq,NUMBn",
   "eErcεaY!<OUSqDhF(I(FTY!<OUSqDaVEcε@O(RTY!<OUSqDaURcε)@NkEcεaTY!<OUSqDhpEcεhS(EVxcεaTY!<OUSqDhIX",
   "cεaTY!<OUSqD@T(x!<OUSqDaH(IRTY!<OUSqDaREEcε@W(xTY!<OUSqDaOcε))))@U(NCEt,T(BOX T]Y,Lkyeτ.Ti,GREE",
   "K C_SS,LATk C_SS,WHITE.Ti@Vn(HEATy FACjL:PcP~eτ.QUi^,WHITEeqD τ.QUi^,SQUi^@kEhWL,X,YSTn)"]

def charNamesP : List String :=
  ["P:(CKAGjDcD~ CHiACTnaG(EceFAC~ UP,l C(IRCsD TEX?URLhR,SaODvHAWH HMpGeC(LqteFAJ,HA(M,WJaK(HAB,OO",
   ",WMaL:UJ,ISaMUAS,PHAB,T(HOJ,S:B,HEEJ,WBhV:J,WJaXYOOJ,Y:J,EEGhpSpqTeAU,C:U,HAUaH:U,LAU,NAUaLAU,M",
   "AU,N:U,CHAU,KAU,LAU,T(HAU,SAUhPLHAU,QHAU,]U,VAU,XAU,YAUhDdaZnOaMiK CIMeHOM,K(^,HAVaS(O,UAMaT:UM",
   ",UBhNUMBneHUNDRy( MILLIpS,SaMILLIpS,T(x(eBILLIpS,<OUSqDSaSaRILLIpShSIGNeAV,CIMeC(HEEM,UAM TSHOO",
   "JaHAIS LUS NTOG NTOG,NR^ TOS,PUB DAWB,T(SOV _G,XWV!CHWV@H(L[NUBaIB YAM,LOS,M(EEJeSUAB,TSEEBaUSa",
   "N(QIG,TUJaT:U,HIRD-STAGE HL[XHEEJ CEEVaVOSeFEEM,LUB,NRUfSEEV,T(H(IAB,OMaSHAB CEEBhX:US,IAB,Y(EE",
   "MeFAIB,NTXIV,RHO,TOVaOOhZWJ <AJaVOWEL K::(B,VaB,I(B,VaU(B,VaV,W(B,VhE(B,E(B,VaVaI:(B,VaB,VaO(B,",
   "O(B,VaVaU:(B,VaB,VaW(B,V@L(LAS,M(eBRqCH,DOWN HqD,TREjUP HqDaS UP TOGE<n,YRxEes(FT-POkT~ FsURp,T",
   "TneA(sPH,YkaBE<,DmE<,Fkm NUN,GIMEL,HEc<aKAPH,LAMyH,MEM,NUN,PjQOPH,R^H,S:(DHjMEKHaHkaT:W,E<aWAW,",
   "YODH,ZAYkhNUMBneF(IVjOURapjT(x,HREjW(xTY,O@Rr-POkT~ FsURp@N(CAK^,DA FAC|PnCLIP,R:(CHUTjG]PH(.EP",
   "iATOR,OS,US>aLsLeTO,leζ.T_Kj&LDE OPnATOR@x<^IZyeDdhHqGULeC(HIEUCH!vIEUCcefU@HIEUH!vIEUNG!vK(HIE",
   "UKH!vIYEOK!AhMIEUM!vNIEUN!vP(HIEUPH!vIEUP!AhRIEUL!vSIOS!vT(HIEU<!vIKEUT!A@IDEOG]PHemLIqCjC(mL,p",
   "G]TULA&paE(i<,r,NTnPRIS|F(^&Vm,I(NqCIm,RjV|OURaHAVjLABOR,M(ETm,OpaN:Mjk|pjRE:CH,PR^x?S(OURCjThS",
   "(E(LF,VxaIX,OCIETY,PECIm,T(OCK,UDYaU(N,PnVISEhT(x,HREjWOaW:Tn,OODhKOREq CHiACTn O( HU,JEpaLATke",
   "CAPITm sTTn$aSMmL sTTn$hNUMBneE(rEx,sVxaF(IFTEx,OURTExaNkETEx,S(EVxTEx,IXTExaT(x,HIRTEx,WE(LVjN",
   "TY)@_?T( mTnNA&p>,Im(eDIFFnx&m,LkEeBACKWiD,DOWN,FORWiD,UPhLY-RECYCsD PAPn=aNnSHIPt,Y POPPnhSS(E",
   "(D=,NGn.HIPaIVE-PULL-(DOWN-OUTPUT=,UP-OUTPUT=aPOR(T CpT_LhU Ck HAUeGLOTTm.TOPceFkm,ViIqThL(ETTn",
   "efBfC*HvDfjF*kmeK,L,M,NcGaP,?W,YhGfHfIcvK*HvLfMfN*GvO,P*HvRfSfT*HvUcvVfZvOW-FmL~ TpEceFkm,LpG!F",
   "km)@MID-sVEL TpEceFkm,LpG FkmhRIS~ TpEceFkm,LpG!Fkm@SqDHIeGLOTTm.TOP!FkmaTpEceFkm,LpG!Fkm))@W P",
   "RkTSaD(F,IaE:(C(E=,H,OCKaNUTS,RaD^TRIq,N( OVn.TAMPy xVELOPjCIL,GUk,SIVE FACjTAG]MaOPs HUGG~,R(e",
   "MILst,SIGN,Tx <OUSqDtaCxTt,FORM~ iTS,MqxT PAPnt,PxDICULi!l.aS(EVn~ FACjp(eBOW~ DEEPLY,CLIMB~,DO",
   "~ CiTWHEEL,F_WN~,keLOTUS POSI&p,STEAMY _OMa]IS~ BO< HqDS k CEsB]&p,leB(mL,LpD HAIRaC_WN,FOLDy H",
   "qDS,HEADSCiF,POUT~ FACEhm COMPUTnaPEC&VEhS(ETAt,OtaTRI DISHaH:(GS-PAeω HEAD>,δAcLTnNATE YfSPI]T",
   "y FvBfC:cND]BkDUaHvD*DfZvEc|FfG*GvHf[JfK*HvLfMfN*GfNfYvO,P*HvQfRfS*HfMmL vT*HfS*HvT*HAhU,VOICE(",
   "D HfsSS.HvWfXfYfZ*HAhMiKeω.HAD,SHADaS(~s HEAD>,U(BJOky δRfWfYvPnFIXy sTTn ]@ISTOS DISCtei_W,B(E",
   "EcHIV|O(OMnqG,WaULLS sGaC:(P&VjRPxTRY PLqjTaHILD,LUB,O(LUMN,MBck~ OBLIQUE.T_KE@DO(LIUM,V|EAGLjF",
   "LUTjG:UNTs?]TnaH(ELME?IDjORNaLI(D,LYaMA(NACsS,TTOCKaOX BACK,P:PYRUS,y^TRIq,L(qE TREjUMy HEADhR:",
   "M,OSETT|S:W,HI(ELD,PaL~,MmL AXjT]knaT:TTOOy HEAD,IifUNNYaVkjW:VY BqD,OMq@ILIPPkEeω PUNCTUA&p,S~",
   "s PUNCTUA&paO(xICIqeδA(k,LFaBE?DEL?GAML,HEcTaKAF,LAMD,MEM,NUN,PjQOF,_SH,S:DjEMK,HkaT:U,ETaWAU,Y",
   "OD,ZAIaNUMBnepE!HUNDRyaT(x,HREjW(xTY,O@WORD.EPiATORaLUShI(CKcUP TRUCKajGceFACjNOSEhL(C_Wt,E OF ",
   "POO,LaN:TfCH(y F~nS,~ HqDaE( DECO]&p,APPsaWHEEL.TiaS(C^,TOLaTCHFORK!l TEE TOPhL:(C(iD,E OFekTn^",
   "Tt,WORSHIPhNCK CpSTqT!OVn TWO PIaY(G_UND.LIDj~ CiDeACEοaB:CK,LACK JOKnaErοaF(IVEοaO(OL,URο@JACK",
   "οaK(~οaNrοhNkEοaQUExοaRy JOKn,S(EVxοaIXοhT(xοaHREEοaRUMP-(1cba2c0,1a3,4,5,πaWOοhWHITE JOKn@D,Uc",
   "NGn,S(tce+E EQUmSt,kesFT HmF CIRCLjRr HmF CIRCLjTRIqGsaleτ TRIqGLjCIRCUMFsX ACCxT +jDOT z,S(MmL",
   " CIRCs +jUBSCRIPT TWOa&LDEe+jz)@-MkUStaTOcgeF(IVjOURaT(HREjWO))@M,O(CKET CmCULATOR,LICEeCicS RE",
   "VOLV~ LraOFFICnaODLjP( DIREC&pmeFORMATT~,ISOLAT|CORNaRTABs.TnEO,S(EIDp,I&p kDICATOR,T(meHORN,Mi",
   "K!FACEhBOXhT( OF FOOD,A(Bs WATn=,TOaTy PLqTaU(CH,LTRY sG,NDt,R~ LIQUID,T~eCAT FACjFACEhWnep(=,-",
   "OFF=aS(sEP=,YMBOL@R:Yn BEADS,E(Cy^ce+EemMOST EQUm TO,EQUmSt,NOTemMOST EQUm TO,EQUm TOaS~s-LkEeE",
   "QUmSt,NOT EQUm TOhBUT NOT EQUIVmxT TO,OR EQU(m TO,IVmxT TOaUNDn RELA&phGNqTeMq,PnSp,WOMqaS(CRIP",
   "&p TAKjxTA&pg FOR ψeCO(Lp,MMvE(M DASH,N DASH,XCLAMA&p>aζ ELLIPSIS,IDEOG]PHICeCOMMfFULL.TOPaL(EF",
   "TeqGsθ?τ sN&CULiθ?C(ORNnθ?URLYθTaω qGsθ?Pix<^IS,SQUiEθ?TORTOISE.HELLθ?WHITEeCORNnθ?sN&CULiθThOW",
   " Lk|QU^&p>,RreqGsθ?τ sN&CULiθ?C(ORNnθ?URLYθTaω qGsθ?Pix<^IS,SQUiEθ?TORTOISE.HELLθ?WHITEeCORNnθ?",
   "sN&CULi B](CKE?KCET@SEMICOLp,TWOυ sADn,WAVY LOW LkEhTZEL,VIOUS PAG|I(MjN(CEcSSaT(.CREx=,n!ICp@V",
   "A(CY M^SAGjTE USE(epjTWOa-(1,2)@O(B~ CqjHIBITyt,JEC&VjP(nTY LkjOR&pcm TOhSnPkAhSmTn PAHLAVIeFOU",
   "RυS leC_SS,DOTaδmEPH,BE<,DmE<,GIMEL,HEc<aKAPH,LAMyH,MEM-QOPH,NUN,PjS:(DHjMEKHaHkaTAW,WAW-AYk-R^",
   "H,YODH,ZAYkaNUMBneFOUR,pE!HUNDRyaT(x,HREjW(xTY,O@SEC&p>,TURNy.EC&p>aU(1,2,BLIC ADDR^S LOUDSPEAK",
   "n,NCTU:&p.PACjS EsVATUS>aR(Ps HEi?S|SHPk,T LITTn k ITS PLACE=))"]

def charNamesQ : List String :=
  ["QU:(DR(qTeLOWnesF?RraUPPnesFT!qDeLOWnesFT qD LOWn Rr,RraUPPn Rr qD LOWnesF?Rr@Rr!qD LOWn sFT!qD",
   " LOWn Rr)@UPsekTEGRm OPnATOR,PRIMEhRTn NOTjTnNIp kTEGRm OPnATORa^&p(eEXCLAMA&p>,MiKay EQUm TOak",
   "CUNX,OTA&p>)"]

def charNamesR : List String :=
  ["R:(BBIT!FAC|C(COp,~eCi,MOTORCYCshDI(Cm= BOTTOM,O!BUTTp,AC&VEthI(LWAYeCi,T]CKaNcBOWaSyeBACK OF H",
   "qD,COMMfDOTcTy kTnPOLA&p>naFIS?HqD!leF~nS.PLAYy,PiT BETWEx ξqD R~ F~nShkTnPOLA&p>n,M(Ct,Dt,RtaS",
   "QUiEhM,TcIOaZORaE(C(EIP?ORD.EPiATOR,REA&pm VEHICLjYCL(y PAPn=,~= FOReGxnIC MATnImS,TYPE-(1 PLAS",
   "&CS,2 PLAS&CS,3 PLAS&CS,4 PLAS&CS,5 PLAS&CS,6 PLAS&CS,7 PLAS&CS)@DeAPPLjGIFT xVELOP|FnxCE>,GI(p",
   "m kDICATOR= sTTn$aSTnytaJqGeCpSpqTteH,NcGaRaδfBfCfDfGfHfJfKfLfM*BvN*DfG*GvY*JAhPfRfSfTfWfYvSEC&",
   "p>,V(I]MfOWELteA([UaEcfUa[O,U@LIEVy FACjMkDn RIBBp,PLACEMxT CHiACTn,S(PpSjTR(ICTy sFT xTRY-(1,2",
   "aOOMhTURNesF?Rr,SYMBOLaV(nSE(eCHECKn BOiD,kDEX,LI(GHT FOUR POkTy PkWHEEL.Ti,NE FEyaSOLIDUSceOPn",
   "ATOR,PRECy~.UBSE?l ζ.T_KEh&LDE OPnATOR +EesFTμu,RrμuhDeqGs!l UNDnBiaCOMMfωePRIME!QUOTA&p>aST_KE",
   " NOTtaEMPTY.E?FORKy PiAG]PHOS,HqD l ξF~n EXTxDy,NOTt,P(ILC_Wt,RIM|QU^&p>,R:ISy HqD l F~nS.PLAYy",
   ",r qGLjOTATy FLORm HEiT BULsTaS(qS-SnIF CAPITm L,EMICOLpaT(HUMBSeDOWNt,UPtaILDE!EQUmSaRIPs PRIM",
   "|VICTORY HqDhOLV~ HEiTShHkOCnOS,Icmt,BBpcueDOWNesF?RrasFTeDOWN,UPaRreDOWN,UPaUPesF?Rr@CEeBmL,C]",
   "CKnaFLjGHT(eA(N(DeLOWn pE ErH BLOCK,UPPn pE ErH BLOCKaG(n BUBBLjsceB]CKET!lυaDOTTy.UBS&TU&p>n,S",
   "UBS&TU&p>n,ViIqT l.QUijleiC,DOWNμ ZIGZAGu))@R(C GREATn-<qθ?_W leCIRCsD PLUS,SMmL CIRCs@τesN&CUL",
   "iθ?TORTOISE.HELLθTaC(EIL~,ORNnθ?URLYθTceLOWn λ,ξPIECjUPPn λ@DO(TTy.UBS&TU&pθ?UBseA(NGsθ?R_W l _",
   "UNDy HEADaPix<^IS,QUOTA&p>,WIGGLY FxCEhF(I(SH TAIL,VE ErHS BLOCKaLOORaHA(LFeBL:CKeCIRCLjSTiaOCK",
   "aFOLDn,MyIUM.HADjRUNN~ MqaND TEsPHpE RECEIVnaLOW PiAPH]SEθ?NORMm FACTOR.EMIDIRECT P_DUC?O(NEeEr",
   "H BLOCK,QUiTn BLOCKaPx.QUiy DO?UTn JOkaPix<^ISceEXTxSIp,LOWn λ,UPPn λh]ISy OMISSIpθ?S(-SHAPy BA",
   "G DELIMITn,E(MIDIRECT P_DUC?Vx ErHS BLOCKaI(DEWAYS Uθ?NGs QUOTA&p>aPE:Kn!lepE.OUND WAVj<REE.OUN",
   "D WAV^hECH BUBBsaQUiEθTceEXTxSIp,LOWn CORNn,UPPn CORNn,leω.T_KjQUILL,ST_Kj&CK keBOTTOM CORNn,TO",
   "P CORNnaUNDnBi@UBS&TU&pθTaT:CK,H(IRD WHITE Rr POkT~ kDEX,OUGHT BUBBLjREEeErHS BLOCK,QUiTnS BLOC",
   "KhORTOISE.HELLθ?R(qSPOSI&pθ?IqG(s!+E sFT TRIqGsaULi pE QUiTn BLOCK@ψ B(i l QUILL,OX Lk|W(HITEeC",
   "(ORNnθ?URLYθTasN&CULiθ?Pix<^IS,SQUiEθ?TORTOISE.HELLθTaIGGLY FxCEh-(FAC~eiMxIq ETnNITYt,FIS?SVAS",
   "&t!lυShHqDy kTnLACy PxTAG]M,POkT~eqGsθ?CURVy qGsθ?ω qGs QUOTA&p>,MAGNIFY~ GLASSaS(HADy WHITE Rr",
   "μu,IDE iC CLOCKWISEuaTO-sFTeEMByD~,ISOLATjMiK,OVnRIDEhHqD kTnIOR P_DUC?μei_WceA(BOVEemMOST EQUm",
   " TO,REVnSEemMOST EQUm TO,&LDE OPnATORaSHORT sFTμu,&LDE OPnATORaND UPPn qD LOWn pE ErH BLOCKaF_M",
   " Bi!TO τ DIAMpDaOVn sFTμu,T(H_UGHeGREATn-<q,SUPnSE?XaO B(i,LACK DIAMpDhleCORNn DOWNμ,DO(TTy.TEM",
   ",UBs ψ.T_K|EQUILATnmuHEAD,λ,L(iGE TRIqGsuHEAD,OOPaMyIUM TRIqGsuHEAD,NOTCHy TAIL,PLUS z,S(MmLeEQ",
   "UILATnmuHEAD,TRIqGsuHEADaT_K|T:IL!leω ψ.T_Kjψ.T_KEhIPeDOWNμ,UPμhψ.T_KEh-TAILaB:CK-&LTy.HADOWy W",
   "HITEu,LACKei_W,CIRCsD WHITEuaOTTOM.HADy WHITEuaCOMPR^Syu,D:SHyu,OUBsei_WceF_M Bi,leST_Kjψ.T_KEh",
   "-TAILaDASHuhF(~n-POSTu,RpT-&LTy.HADOWy WHITEuaH:(ND,RPOpeOVn sFTμ HiPOp,l BiBeDOWN(e+E sFTμ HiP",
   "Op l BiB DOWN,z LpG DASH,F_M Bi,TO BiaμaUP(e+EeL(EFTμ HiPOp l BiB UP,pG DASHaRrμ HiPOp l BiB DO",
   "WNaF_M Bi,TO Biaμ)@EAVYei_W,COMPR^SyuhsFT-SHADy WHITEu,OPx-HEADyu,PAIRyuS,QUADRUPsu,R(r-SHADy W",
   "HITEu,OCKETaS(qS-SnIFu,QU(iyu,IGGsuhT(OP.HADy WHITEu,RI(qGs(uHEAD,-HEADyei_WceOVn sFTμ TRIqGs-H",
   "EADyu,TO Bi,leBOLD.HAF?ωeζ.T_Kjψ.T_K|HEAVY.HAF?LpG &PeDOWNμ,UPμaMyIUM.HAF?Ni_W.HAF?VnY HEAVY.HA",
   "FT@DASHyu,PAIRyuShPsei_W,DASHuhWO( HEADyu,-HEADyei_WeF_M Bi,leω ψ.T_KjT:IL!leω ψ.T_Kjψ.T_KEhRIq",
   "GsuHEADSaψ.T_KEhTRIPs DASHu@W:VEu,HITEuceF_M WmL,lk TRIqGsuHEAD))@NGce+jBUOY,EQUm TO,k EQUm TO,",
   "OPnATOR,POkTay PLqE?~ BELLaS~ DIAGpm C_SS~eFmL~ DIAGpm,SOU< EASTuhL(j[M,OaO:STy.WEET POTATO,BOT",
   " FACjCKcETaLL( OF PAPn,E(D-UP NEWSPAPn,ReCOASTn,SKATEh~ p <E FLOOR LAUGH~aMqeASt,CxTURImt,D(xiI",
   "USt,IMIDIA.EXTULAt,UPpDIUStaNUMnmeE(r,sVxaF(I(FTYceEiLYg,<OUSqDhVEcε@OURaNkjpEceHUNDRy!<OUSqDa<",
   "OUSqD!C D@REVnSy pE HUNDRy,S(EVx,IX!LATEghT(x!<OUSqDaHREjW(ELVjO@QUkiIUSt,S(E(MUNCIAt,STn&USt,X",
   "T(qSt,ULAthILIQUAtaUNCIAtaOSTn,SEcTT|TATyeCAPITm Q,FLORm HEiT BULs?HEAVY τ HEiT BULs?Lr FOUR PO",
   "kTy τ CUSP,WHITE FOUR POkTy CUSPaUND(ePUSHPk,TiGETay= FOReCA[FU,LU,SH(OU,UqGXIaXIhWBOATaS,U(Bst",
   ",GBY FOOTBmL,s-DELAYy,MIeDdhF]C&pepEeHmF,QUiTn,<IRDaTWO <IRDSaNUMBneEr( HUNDRy,YaF(I(FTY,VE HUN",
   "DRyaO(RTY,UR HUNDRyhNkE( HUNDRy,TYapE HUNDRy,S(EVx( HUNDRy,TYaIX( HUNDRy,TYhT(x,H(IRTY,REE HUND",
   "RyaW(xTY,O HUNDRy)@N(ICeiLAUG=,BELG<OR=,C_SS PUNCTUA&p,δA(C f^C,LGIZ EOLHX,NSUZ vBnKqq BEORC BJ",
   "iKq B,CcmC,E(mC,NaWEOR<aDcAGAZ DAEG D,OTTy-(L,N,PhEci,HWAZ EH jNG,<aF(EHU FEOH FE F,RqKS CASKET",
   "eA(C,^CaEH,IS,OShGci,E(BO GYFU G,RhHA(EGL H,GLAZ HaI(CELqDIC-YR,NGcWAZaOR,SAZ IS ISS [WAZ EOHaJ",
   "nq J,KcAUN( K,AhL:UKAZ LAGU LOGR L,pG-BRqCH-(i AjHAGmL H,MADR M,OSS O,YRhMqNAZ Mq M,NAUDIZ NYD ",
   "NAUD N,OcjN,O,Px-P,S O,<mq E<EL OaPn<O PEOR< P,Q,]IDO ]D REID R,S(HcORT-TWIG-(i fBJiKq B,HAGmL ",
   "H,MADR M,NAUD N,OSS O,SOL.,TYR ?YRhIGEL LpG-BRqCH-SOL.,OWILO.,TqaT(HURISAZ <URS <ORN,IWAZ &R TY",
   "R TaURUZ UR U,V,WcUNJO WYNN WaX,YcRaZaMUL&Ps PUNCTUA&p,S~s PUNCTUA&p,TVIMADUR=aN(n,~.HIRT l.ASH",
   "hPEEt,SSIq AST_LOGICm=eBkOVILjNOVILjQUk&LjSxTAGp,TRyECILjVIGk&s)))"]

def charNamesS : List String :=
  ["S( k TRIqGLjA(FETYePk,V^TaGITTiIUS,ILBOA?KE BOTTs qD CUP,L(T(.HAKn,IR|UT~ FAC|MiITqeABBREVIA&p>",
   ",δmAF,B:fITaDmA?F[GAMq,I(N,?YaKAAF,LABA?MIM,NUN,QUF,RISH,S(Hq,~AATaT:AF,I?SAADIYaYU?ZxaM(iKeDAG",
   "^H,EPx<E&C YU?kc-mAFaNEQUDAfOCCLUSIpaODIFIn δEPx<E&C YU?[SHORT AhPUNCTUA&peA(FSAAQ,N(Gy,NAAUaRK",
   "AqU,TMAAUaBAU,MELODIC QITSfNEQUDAfQITSfS(HIYYAmAfOF MASHFAATaTURU,Z:EF,IQAAhVOWELteAcvj[LpGeAcv",
   "j[UaOcVnLpG AcAhS(HORT fUKUNaUhN(DWICH,S-SnIFeHEAVYeωeCOMMA QUOTA&p> ORNAMx?TURNy COMMA QUOTA&p",
   "> ORNAMxTaLOW ω COMMA QUOTA&p> ORNAMxTakTn_BqG ORNAMxThR[T(ELLITE!qTxNvURNaUR:SHT]eCpSpqTt HAiU",
   ",D(qDfdaZnOaOUBs DqDvδAcf[UaB*HvC*HvD*D*HvHvEc|G*HvHfIcIaJ*HvK*HvL*LvMfN*GfNfYvOcOaP*HvRfS*HfSv",
   "T*HfT*HAhUcUaV*ρ@YvSIGNeqUSVifCqD]BkDU,VI(]MfSiGAhVOWELteA*[UaEc|IcIaOcOaUcUaVρ)@OPODaXOPHp|C:(",
   "sS,RFaHOOL!SATCHELa[O(OTn,RPI(p,UShR(E(x,WDRIVnaIPTeCAPITmeB,jF,H,[L,M,P,RaLIGATURE ET ORNAMx?S",
   "MmLejG,L,OhOLL,UPshE:(L,TaC(pD PLACE Mym,T(Ipt,ORhDNfE(-NO-EVIL MpKEY,DL~aGMxTcy DdaZnOhLFIjMI(",
   "COLp,DIRECT P_DUCT l BOTTOM CLOSy,SEX&saPiATy=,R(IOUS FACE l=S COVn~ MOU<,VICE>aS:ME DO?QUIQUAD",
   "]T|TeMkUS,TRqSMIT.TAT|W~ NEyLjX&saGC,H:(DOWy WHITEeCIRCLjLATk C_SS,STiaLLOW Pq OF FOOD,M_CK,R:D",
   "AeABBREVIA&pt,CpTkUA&pt,D(qDfdaZnOaOUBs DqDvE(KAM,XT].HORT VOWEL>aHEADST_KjδAcf[κvL*LvMfN*GfNfY",
   "vO,P*HvRfS*HfSvT*HfT*HAhUcUaV*ρ@YvOM,S(qDHI>,E(C&p>-(1,2aPiATORaIGNeA(NUSVifVAG]HvCqD]BkDU,kVnT",
   "y CqD]BkDU,JIHVAMULIYfNUKTfSIDDHAM,UPADHMqIYfVI(]MfSiGAhUT]>aVOWELeMODIFIn>,SIGNeA*[UajIcIaO,PR",
   "ISH<AMAT] jUcUaVρ))@KaV(y ICjIq δA(DO,GjH,IR,R(j]YaSH,W|BIB,CHURCH,DEAD,E:(R,TaGG,RRaFEjGAG,H:-",
   "HfUNGaI(q,CjFaJUDGjKICK,LOLL,M(EASURjIM|NUN,O:K,IL,N,OZjR,UTaPEEP,_i,S(O,UR|T(H(EY,IGHaOTaUP,VO",
   "W,WO(jOLaYE*WaZOO@EEP,I(ELD,FTek,OUTaNTO.HRkjPaO(CKy FACE l EXPLOD~ HEAD,OT~.Ti,PP~eBAGS,T_LsYa",
   "RT(eB:CKSLqTy.OU<u,xTu POkT~ DOWNμ <x NOR< EASTaDOWN TACK!l OVnBiasFT TACK,Rrμu +E sFTμu,SLqTy ",
   "NOR<u,UP TACKce+E.HORT DOWN TACK,l UNDnBi@CAKjHqDgATeCpTkU~ OVnLAP,DOWN.TEP,sTTn OVnLAP,UP.TEPa",
   "SaULDny OPx BOX,WnaR(IMP,UGaUFFs P_DUC?YaIcD(DHAMeD(qDfOUBs DqDvxD OF TEXT>,δAcf[LTnNATE U,κvLf",
   "MfN*GfNfYvO,P*HvRfS*HfSvT*H*REE-CIRCs mTnNATE IaT*HvWO-CIRCs mTnNATE IcIhUcUaV*ρ@YvREPE&&p>-(1,",
   "2,3aS(E(C&p>eω R~!l ]YSaleCIRCsS qDeFOUR xCLOSUR^,]YS,TWO xCLOSUR^aω CR^CxTS,QUADRUPs CR^CxTS,]",
   "YS qDυTyeCR^CxTS,ω CR^CxTS,TRIPs CR^CxTSaSEPTUPs CR^CxTS,TRI(DxT qDeDOTTy CR^CxTS,U-SHAPy ORNAM",
   "xTSaPs CR^CxTS@PiATOReBi,DOThIGNeqUSVifCqD]BkDU,NUKTfSIDDHAM,VI(]MfSiGA@VOWELteA*[LTnNATE UcUaU",
   "ajIcIaO,UcUaVOCmIC RcR@EWAYSeτeDOWN POkT~ kDEX,sFT POkT~ kDEX,Rr POkT~ kDEX,UP POkT~ kDEXaWHITE",
   "eDOWN POkT~ kDEX,sFT POkT~ kDEX,Rr POkT~ kDEX,UP POkT~ kDEX@GN( OF <E HORNS,WRIT~eAIReBLOW(.MmL",
   " _TA&pS,~ OUTaSUCK(.MmL _TA&pS,~ khBR(EA<eEXHmjkHm|USHeBETWEx,MUL&PLjS~shC(HEEKSeNEUTRm,PUFFy,S",
   "UCKyaO(Lp,MMAhD(REAMY EYEB_WSeDOWN NEUTRm,NEUTRmeDOWN,UPaUP NEUTRmaYNAMICei_WHEADeLiGjSMmLaEVnY",
   " O<n &MjFAS?G]DUm,RELAXy,S(IMULTqEOUS!mTnNAT~aLOWaTxSEhE(iS,XCITEMx?YE(eBLkKeMUL&PLjS~saWkKaB_W",
   "S.T]reDOWN,NEUTRm,UPaGAZE-(FLOORPLqEeCURVy,ST]rcemTnNAT~,ω@WmLPLqEeC(IRCL~,URVyaST]rcemTnNAT~,ω",
   ")@LASH^eDOWN,FLUTTn~,UPaSeCLOSy,HmFeCLOSy,OPxaOPx,SQUEEZy,WIDE( OPx,N~ MOVEMxT)@F:CE DIREC&p PO",
   "SI&p NOSEeFORWiD &LT~,UP OR DOWN!&LT~hI(LL MODIFIn-(2,3,4,5,6aNGnaL(ICKeLiGEeMUL&PLjS~saS(EQUx&",
   "m,MmLeMUL&PLjS~s@OORPLqE.HOULDn HIP MOV|OREHEADeCpTAC?NEUTRm,WRkKsDaULL.TOPaG]SPeBETWEx,MUL&PLj",
   "S~saH:(IR,ND-(qGscekDEXceMIDDseLITTLjR~aR~ LITTs!OUTa<UMBcek,OUT)@LITTsekDEX!<UMB kDEX <UMB!OUT",
   "hUPaξR~ LITTscek,OUThR~eDOWN ξ<UMB kDEX C_SS,LITTs@C(IRCscekDEXceBx?H~jMIDDsceC_SS( LITTLjyaLIT",
   "TLjR~,<UMBhR~ LITTshLITTsekDEX,UPaMIDDseR~ LITTs!BxTaUPaR~ LITTshLAWceFOUR F~nS CpJOky,kDEX <UM",
   "B CURVE <UMB kSIDjξR~ LITTs CpJOky!SID|NO <UMB,<UMBeFORWiD,SIDE@U(PceFIVE F~nS.PREAD!OPxakDEXce",
   "R~ LITTLj<UMB!OPx@ξR~ LITTLjNO <UMB,OPxceNO <UMB,<UMBeFORWiD,SIDE@<UMBeFORWiD,SIDE@RLICUEcekDEX",
   " R~ LITTs p,ξR~ LITTs p,OPx)@F(ISTceFOUR F~nS CpJOky Bx?HEEL,kDEXceBxT!OVn MIDDsaCUPPy,H~yceLOW",
   ",ξUP!<UMB.IDE@MIDDsceBxT!<UMB.T]raC(pJOkyceCUPPy!<UMB FORWiDaH~y!<UMB.ID|kDEX Bx?ξBx?<UMBeFORWi",
   "D,SIDEceBx?CpJOky))@_SS( LITTLjy!<UMB.IDE@H~y!SPREAD <UMB.ID|LITTLjR:ISy KNUCKsS,~ceBx?CpJOky@S",
   "T]r <UMB Bx?<UMBceqGsD!OUTaBx?C(IRCsD,pJOky H~y,UPPyaH(~y,OOKy@UP.PREAD <UMB FORWiDhR:ISy KNUCK",
   "Lj~ LITTsa<UMBeqGsDek ξUP,OUT ξUPaC(IRCscD ξUPaU(PPy ξUP,R(LICUjVE <UMBekSIDjUNDn)@FORWiD kDEXe",
   "Bx?ST]raλcy MIDDseH~y,UPhSIDEceBO< Bx?kDEXeBx?H~|<UMBeBx?CpJOky,DIAGpm)@UP ξH~y!<UMBeCpJOky,SID",
   "E)@LITTseBx?DOWNceO<nS CIRCsD,RIPPseCURVy,ST]r@kDEX!<UMBa]ISy KNUCKLjT(HUMB,OUCH^ <UMBaUPaMIDDs",
   "eBxT OVn kDEX,DOWN,LITTLjR:ISy KNUCKLj~ LITTsa<UMBeqGsDekDEX UP,OUT kDEXeC_SSy,UPhC(IRCsD kDEXe",
   "H~y,UPaUPPy kDEX UPaλy kDEX UP,LITTsaUP!<UMB.IDEhR~eDOWN,kDEX,LITTLjMIDDsceCpJOky,]ISy KNUCKsSh",
   "]ISy KNUCKLj<UMB,UPa<UMBceBETWExekDEX MIDDs!ST]raξR~,R~ LITTsaFORWiD,HEEL,OVneFOUR ]ISy KNUCKsS",
   ",TWO F~nSaSIDEeBx?CpJOky,DIAGpmaUNDneFOUR F~nS,kDEX Bx?LITTs UP,T(HREE F~nS,WO F~nS)))@LATceBET",
   "WEx PmM FAC~S,F(IVE F~nS.PREADceBx?FOUR Bx?H~yceNO <UMB,<UMB.IDEh<UMB FORWiDhOUR F~nSceBx?CpJOk",
   "y!SPLITaH~y@HEELceFIVE F~nS.PREADceBx?FOUR BxTh<UMB.IDEhSPLITeCxTRE!<UMB.IDE!BxThkDEX <UMB.IDjL",
   "ITTsa<UMBeBx?FORWiD,SIDE)@H(~EceF(IVE F~nS.PREAD OPx,OUR F~nS CpJOkyakDEXceH~y,MIDDseLITTLjR~!C",
   "pJOkyhR~ LITTLj<UMBceLiGjOPx,S(IDjMmL))@LITTscekDEX!<UMBa<UMBhMIDDs!R~ LITTsaNO <UMB,OPxceNO <U",
   "MB,<UMBeFORWiD,SIDE@R~!DOWN kDEX <UMB λ MIDDsaSMmL,<UMBeBETWEx ξR~,SIDE!TOUCH~ kDEX)@OOKceCURLI",
   "CUjkDEX R~ LITTsek,OU?UNDnaMIDDseR~ LITTs CpJOkycek,OUTh<UMBaR~ <UMB@OVmceFIVE F~nS.PREAD,kDEX,",
   "LITTs UP,NO <UMB,R~ LITTLj<UMBeFORWiD,SIDE))@EADceMOVEMxT( CIRCLj-(FLOORPLqEeCURVjST]raWmLPLqEe",
   "CURVjST]r,&LT@RIM@L(I(MBeCOMBkA&p,sNG<-(;,6,7hP(eLOWn OVn UPPn,UPPn OVn LOWnaS PR^Sy TOGE<nhOCA",
   "&p(eDEP<,HE:D NECK,raLIMBS DIGITS,TORSO,WID<a-(FLOORPLqE.PACjWmLPLqE.PACE@MO(U<eC(LOSyeCpTAC?FO",
   "RWiD,NEUTRmaORNnSaF_WNceOPx,WRkKsDhKISSceFORWiD,WRkKsDhOPxeCIRCLjFORWiD,OVmceWRkKsD,YAWNhRECTqG",
   "sceWRkKsD,YAWNhWRkKsDaSMIsceOPx,WRkKsDhTxSEceFORWiD,SUCKyhWRkKsSeDOUBLjS~shVEMxT-(DIAGpmeAWAYeL",
   "iGEcSTaMyIUM,SMmLaBETWExeAWAYeLiGEcSTaMyIUM,SMmLaTOμeLiGEcSTaMyIUM,SMmLhTOμeLiGEcSTaMyIUM,SMmLh",
   "FLOORPLqEeiM CIRCs HITT~ WmLeLiGEeDOUBLjS~saMyIUMeDOUBLjS~saSMmLeDOUBLjS~shB(xD,OXeLiGjMyIUM,SM",
   "mLhC(HECK,ORNneLiGjMyIUM,SMmLa_SS,URVEeCOMBky,HITT~eCEIL~eLiGjSMmLaFLOOReLiGjSMmLhLiGEcSTaMyIUM",
   ",SMmLhωemTnNAT~!WRIST FsXaST]r,WRIST FsXaF~n C(IRCsS HITT~ WmLeDOUBLjS~sapTACTaHUMPeHITT~eCEIL~",
   "eLiGEeDOUBLjTRIPsaSMmLeDOUBLjTRIPshFLOOReLiGE DOUBLjSMmL DOUBLjTRIPseLiGE TRIPLjSMmL TRIPs@SMmL",
   "aJAW,LOOPeHITT~eCEIL~eLiGEeDOUBLjS~saSMmLeDOUBLjS~shFLOOReLiGEeDOUBLjS~saSMmLeDOUBLjS~s@SMmLaPE",
   "AKSeLiGjMyIUM,SMmLaS(HAK~ PimsL,~seST]reLiGEcSTaMyIUM,SMmLaWRIST FsXhTRIPsemTnNAT~eMOVEMx?WRIST",
   " FsXaST]r MOVEMx?WRIST FsXaW:VEeHITT~eCEIL~eLiGjSMmLaFLOOReLiGjSMmLhLiGjS(MmL,NAKEhRIST CIRCs H",
   "ITT~ WmLeDOUBLjS~shZIGZAGeLiGjMyIUM,SMmLhH~EeDOWN.EQUx&m,SIDE TO.IDE.CISSORS,UPeDOWNemTnNAT~eLi",
   "GjSMmLaLiGjSMmLaSEQUx&mhWmLPLqEeiM CIRCseMyIUMeDOUBLjS~saSMmLeDOUBLjS~shB(xDeLiGjMyIUM,SMmLaOXe",
   "LiGjMyIUM,SMmLhC(HECKeLiGjMyIUM,SMmLaORNneLiGjMyIUM,_TA&p,SMmLa_SS,URVE(eH(mF-CIRCseLiGEcSTaMyI",
   "UM,SMmLaITT~eCH^?FRpT WmLhQUiTneLiGEcSTaMyIUM,SMmLa<(x.T]r,REE-QUiTn CIRCseMyIUM,SMmL@D C_SSeMy",
   "IUM,SMmL@ωemTnNAT~!WRIST FsXaST]r,WRIST FsXaF~n C(IRCsSeDOUBLjS~sapTACTaHUMPeHITT~eCH^?FRpT WmL",
   "aLiGjMyIUM,SMmLaJAW,LOOPeHITT~eCH^?FRpT WmLaLiGjMyIUM,SMmL!ωhPEAKSeLiGjMyIUM,SMmLaS(HAK~,~seST]",
   "reLiGEcSTaMyIUM,SMmLaWRIST FsXhTRIPsemTnNAT~!WRIST FsXaST]r MOVEMx?WRIST FsXaW:VEeCURVEeωeLiGjM",
   "yIUM,SMmLaTRIPseLiGjMyIUM,SMmLhDIAGpm PA<eLiGjMyIUM,SMmLaHITT~eCH^?FRpT WmLhRIST CIRCs FRpTeDOU",
   "BLjS~shZIGZAGeLiGjMyIUM,SMmL)@N(ECK,OSEeCpTAC?NEUTRm,W(IGGsS,RkKsS@Pix<^IS,R(OTA&p( MODIFIn-(1(",
   "0,;,6a2,3,4,5,πa-(FLOORPLqEemTnNAT~!HITT~eCEIL~,FLOORhω!HITT~eCEIL~,FLOORhS~s!HITT~eCEIL~,FLOOR",
   "@WmLPLqEemTnNAT(j~ HITT~eCH^?FRpT WmLhω!HITT~eCH^?FRpT WmLhS~s!HITT~eCH^?FRpT WmL))@UBeBETWEx,M",
   "UL&PLjS~shS(EMICOLp,HOULDneHIPePOSI&pS,SPk|&LT~ F_M WAISTaQUEEZEeFLICK mTnNAT~,LiGEeMUL&PLjS~sa",
   "S(EQUx&m,MmLeMUL&PLjS~s@TRIKEeBETWEx,MUL&PLjS~saURFACEeBETWEx,SYMBOLShT(E(E<ceBITE LIPS,MOVEMx?",
   "peLIPS!MOVEMxTaTpGUE!MOVEMxT)@NSE CHEEKSeHIGH,LOW,MIDDshO(NGUEeCxTREekSIDE MOU<,S&CK~ OUTakSIDE",
   " MOU< RELAXy,LICK~ LIPS,MOV^ AGAkST CHEEK,S&CK~ OUT Fi,&PeBETWEx LIPS,TOUCH~ kSIDE MOU<hRSO-(FL",
   "OORPLqE TWIST~,WmLPLqEeCURVy BxD,ST]r.TRETCHhUCHeBETWEx,MUL&PLjS~sh]VEL-(FLOORPLqEe_TA&p-(FLOOR",
   "PLqEemTnNAT~,DOUBLjS~saWmLPLqEemTnNAT~,DOUBLjS~shSHAK~aWmLPLqEeiM.PIRmeDOUBLjS~LjTRIPsa_TA&p-(F",
   "LOORPLqEemTnNAT~,DOUBLjS~saWmLPLqEemTnNAT~,DOUBLjS~shSHAK~@UPPn BODY &LT~ F_M HIP JOkTS,WmLPLqE",
   ".HOULDn HIP MOVEhLHOUETTE OF JAPq,MILie+EeGREATn-<q +E EQUmSt,sSS-<q +E EQUmStaMkUS.IMILi,OReGR",
   "EATn-<q,sSS-<qhN(E WAVjGs(eCHiACTn kT_DUCn,G]PHIC CHiACTn kT_DUCn,HIGH-REVnSy-9 QUOTA&p>,L(EFT-",
   "POkT~ qGs QUOTA&p>,OW-9 QUOTA&p>aRr-POkT~ qGs QUOTA&p>,SHIFT T(HREjWOh-SHIFT-(2,3hHmAeiCHAICeDd",
   "hNUMBneErY,F(IFTY,ORTYaNkETY,pEεaS(EVxTY,IXTYaT(x,HIRTY,WxTY@L(ETTneA:YqNfE(EYqNfYqNvIYqNfLPAP]",
   "qAeBAYqNfCAYqNfD:YqNfDAYqNvGAYqNfJAYqNfKAYqNfPAYqNfT:YqNfTAYqNAhMBA BAYqNfUYqNfYqNvDqTAJAeLAYqN",
   "fNAYqNfSAYqNvE(EYqNfYqNvFAYqNfHAYqNfI(IYqNfLU(UYqNfYqNvRU(UYqNfYqNvYqNvKqTAJA NAASIKYAYfM:(HAAP",
   "]qAeBAYqNfCAYqNfD:YqNfDAYqNvGAYqNfJAYqNfKAYqNfPAYqNfT:YqNfTAYqNAhYqNvUURDHAJAeLAYqNfNAYqNfSAYqN",
   "AhO(OYqNfYqNv]YqNfSqYAKAeD:YqNfDAYqNvGAYqNfJAYqNvTAmUJAeNAASIKYAYfSA(NYOOGA NAAKSIKYAYfYqNAhU(U",
   "YqNfYqNvVAYqNfYAYqNvI< DdaZnOhPUNCTUA&p KUNDDmIYfSIGNeA(L-LAKUNfNUSViAYvCqD]BkDU,VISiGAYvVOWELt",
   "eAELA-PILLfDIGAeAyA-PILLfGA(ETTA-PILLfYqUKITTvIS-PILLfKOMBUVfPAA-PILLvGA(ETTA-PILLfYqUKITTvK(ET",
   "&eAyA-PILLfIS-PILLfPAA-PILLvOMBU( DEKfVA!HAAeAELA-PILLfDIGA AELA-PILLfGAYqUKITTA))))@X( P(ETmsD",
   " τ qD WHITE FLORETTjOkTyeτ.Ti,PkWHEEL.Ti,STi l ξDOTh-Pn-EM.PACjTEx POkTy ASTnISKhK:TEBOiD,I( qD",
   ".KI BOO?naU(LL!qD C_SSBp^aNKhL:(NTyeEQUm TO OReGREATn-<q!lυ kSID|sSS-<q!lυ kSIDEhNOR<u l HO(OKy",
   " HEAD,RIZpTm TAILhVpIC ASTnISKaE(D,EP(~eACCOMMODA&p,FACjSYMBOLaY FAC|U< OR.PYaI(CE OF PIZZfGHTL",
   "YeF_WN~ FACjSMIL~ FACEhO(P(j~ LiGEeqD,ORhT( MACHkjH@M:(LL(eA(IRPLqjMPnSqD,STnISKaBLUE DIAMpD,CO",
   "(Lp,MM*nCIm ATaNTAkSeAS MEMBn,leOVnBi,ψ Bi AT xD OF ζ.T_KE@DOLLit,E(sMxT OF!leOVnBi,ψ Bi AT xD ",
   "OF ζ.T_KEhM DASH,QUmSt,XCLAMA&p>aFULL.TOP,GREATn-<qt,HYPHx-MkUS,IDEOG]PHIC COMMfs(FTeCURLYθ?Pix",
   "<^IS,TORTOISE.HELLθTaSS-<qtaNUMBnt,ORqGE DIAMpD,P(nCxTt,LUStaQU^&p>,R(EVnSE.OLIDUS,reCURLYθ?Pix",
   "<^IS,TORTOISE.HELLθTaOMq NUMnmeE(r,sVxaF(I(FTY,VE!HUNDRyhOURaNkjpEcεhS(EVx,IXaT(x,HREjW(ELVjO)@",
   "SEMICOLp,T(ILDjWOυS OVn pEυ PUNCTUA&paVEE l UNDnBian <q!OR EQUm TOhSH P_DUCTaI(L(j~eCAT FACE le",
   "HEiT-SHAPy EY^,OPx MOU<aFACE leH(mO,EiT-SHAPy EY^,ORNSaOPx MOU<!qDeCOLD.WEA?SMIL~ EY^,TrLY-CLOS",
   "y EY^hS(MIL~ EY^!qDeHqD COVn~ MOU<,<REE HEiTShUNGLASS^aTEi@RK~ FAC|OK~=aN:(IL,K|EEZ~ FACjOW( CA",
   "PPy MOUNTAk,BOiDn,FLAKjMq!lOUT.NOW@OcC(Cn BmL,KSaFT(eHYPHx,ICE CREAM,SHELL FLOPPY DISKaBmL,WiE-",
   "FUNC&p=aGDIqeCOMBk~eCURVEe+jzaDOTe+jzaλe+jzaLpG λ z,R^H z,ST_KE z,TWOυSe+jzhkDEPxDxT.Hk,δA(sPH,",
   "YkaBE<,FE<,GIMEL,HEc<aKAPH,L:MyH,^HaMEM,NUN,PjR^H-AYk,S:(DHjMEKHaHkaTAW,WAW,YODH,ZAYkaNUMBnepE!",
   "HUNDRyaT(x,WxTYhPUNCTUA&peCIRCs l DO?HmF CIRCs l DO?TWOeCIRCsS lυS,ψ BiS!lυS)@H,LID( QUILT.QUiE",
   " ORNAMxT!k τ.QUi|US!l OVnBihMt,p l Rrμu +j].OMPxGeDdaZnOaδAH,BAH,CAH,DAH,E(EH,HaGAH,HAH,IH,JAH,",
   "KAH,LAH,MA(jHaN:H,GAH,YAHaOH,PAH,]H,SAH,TAH,UH,VAH,YAHhS,U(ND RECORD~ COPY(Rra<eEASTei_WceqD.OU",
   "< W^Tu,C_SS~ NOR< EASTu,TO CORNn,l λhτu,ωu,POkT~eBUD,sAF,VkE sAFaSqS-SnIFu,TRIqGs-HEADyu!TO Bia",
   "WHITEuaW^Tei_WceqD NOR< W^Tu,l λhτu,ωu,POkT~eBUD,sAF,VkE sAFaSqS-SnIFu,TRIqGs-HEADyu!TO BiaWHIT",
   "Eu@YOMBOeCLUSTn-kI&m δLfRfS*HAhFkm CpSpqTte-fB,D,G,K,L,M,NcGaR,ScHhGEMkA&p>,HEAD> l MOp qD.UN!q",
   "DeFLAMjTRIPs FLAMEhδ-ffB*HvC*HvD*D*HvHfZvG*HvHfJ*HvK*HfSSvLfMfN*GfNfYvP*HvRfS*HfSvT*HfS*HvT*HAh",
   "VfYfZ*HAhMiKeω.HAD,PLUTfSHAD,TSHEGaS(IGNeqUSVifJIHVAMULIYfUPADHMqIYfVISiGvUBJOknaTnMkm>-(1,2aVO",
   "WELesNG<>,SIGNeA([Uaj[Oc|Uc|VOCmICeL,R))@PcAcCjGHET&,RKL(EcSa~ HEiThE:K(-NO-EVIL MpKEY,n!leCqCE",
   "LLA&p.T_KjpE.OUND WAVj<REE.OUND WAV^h~ HEAD k.ILHOUETT|E(CH BmLOp,DBOATaSMILOtaHnICm qGs!OPx~es",
   "F?UPhI(Dn!WEBaRmeCmxDi PAD,NOTE PAD,SHELLhLASH~.WEAT=,O(NGjO(L OF <READ,NaRTS Mym,UT~ WHmEhQU:(",
   "RE(eA( OVn M,iU,M,NPEfPAATO,RUHUfUaB:(inU,RaEETfIRU,ORUTO,Q,USSYnUaC( OVn KG,A(L,PaC,D,MceCUBy,",
   "SQUiyhOcRPO]&paUPaD:cASUaB,^[J,L,MceCUBy,SQUiyhORUaE(EKAfR: NAMEeHEISE[MEIZ[REIWfSYOUWfTAISYOUa",
   "GaSUKUUDO,VaF(M,O(O?UR CORNnShG:(L,NMfRpaB,HZ,I(GfNI[RUDAvPfU]MUcTpaYaH:cITUaE(KUTAiU,RUTUaG,I]",
   "GqA HOKfO(N,O(N,RUhPcvU(iADDO,IITO,RqaZaI(MAGE OF!OReEQUm TO,NOT EQUm TOhNc~U,&aUaK( OHM,AcIR[R",
   ":TTO,ORIIhB,Cm,E^U,G,HZ,I_cGU]MU,MEETORU,WATTOaK,L,MceC:PITm,UByaSQUiyhO(OPO,RUNvPf?UR(OpjUZEI_",
   "aV,W,YURIIaL(EFT OPx BOX OPnATOR,M,N,O(G,ZxG|XaM(eCUBy,O(HM,Vn.!SQUiyhSQUiyaAcHHfI(KU_,RUaNSYp,",
   "RUKUaB!SMmLaE(ETORU,GAcTphG,HZ,I(KURp,L,RIcBAiUhL,MceCUBy,SQUiyhOL,PfS,UefF,G,L,M,S,V,WaV!MEGvW",
   "!MEGAhN:cNOaF,M,OTTO,S,V,WaO(NSU,OMU,RIGkm OF!OReEQUm TO,NOT EQUm TOhVaP:!AMPS,A(SxTO,TUhC,E(EZ",
   "[N(IH[SUaSOaF,H,I:SUTORU,K(O,URUhM,O(kTO,NDO,SI&p kDICATORaPM,R,S,V,WaR:D!OVn.!SQUiyhE(MU,NTOGx",
   "aI(GHT OPx BOX OPnATOR,RfTTORUaOO?U(PI[UBURUhS:(IKURU,N&IMUaxT([OaIR~U,R,VaT(iGE?HZ,paUp,V OVn ",
   "M,W:TTO,B,I<eBOTTOM HmF τ,CpTOURy OUTLkjDIAGpm C_SSHATCH FILL,ζ FILL,L(EFT HmF τ,OWnesFT DIAGpm",
   " HmF τ,Rr DIAGpm HmF τhOR<OGpm C_SSHATCH FILL,Rr HmF τ,TOP HmF τ,UPPnesFTeDIAGpm HmF τ,TO LOWn ",
   "Rr FILLaRreDIAGpm HmF τ,TO LOWn sFT FILLhψ FILLhY:A(DO,RUaUqhDeASTnISK,C(JK UNIFIy IDEOG]PH-(4E",
   "(0(0,9a2D,8C,A4a5(18D,2(1D,4D,72a3(CC,F3a4(08,39a5B6,8F0,9(1f29aB57,DE6,F8Ca6(2(4B,53,95a3(07,5",
   "5a5(99,B0a620,70(8,9aE80,F14a7(121,5(1F,33a981,A7fD42a8(9E3,CA9,D70a9(04f14DhL,OOLaDOT OPnATOR,",
   "Er K,F(mL~ DIAGpm.LASH,IVE POkT pjOUReDOT PUNCTUA&p,KaRE|H(C,DR,I-R^,VaID,K:TAKqAeDjKOKO,SvEYaL",
   ":TkeCAPITm sTTn$aSMmL sTTn DaO(GICmeqD,ORaSSsSShM(kUS,VaN(EW,GaO(K,NE HUNDRy TWxTY PaP(LUS,PVaR",
   "IS~ DIAGpm.LASH,S(m&RjD,E(CpD.CREx,Vx POkT p|HV,IXTY P,MmL CIRCLjOS,QUijSaT(HREE D,IM^,W(xTY-TW",
   "O POkT TWO,O KhU(HD,P l EXCLAMA&p>aV(OD,SaWChT τ RrμuaIDaS(2,3,vTcA(DIUM,FF OFeA^CULAPIUS,HnM^a",
   "MPy xVELOPjND~ PnSp,R(eqD CR^Cx?EQUmS,O(F DAVID,PnATORalesFT HmF τ,Rr HmF τhT OFeGUiDy iEfHEAD~",
   ",P_TECTy iEfS(EsCTy iEfTR~aTEXThT(Ip,UE OF LIBnTYhE:M( LOCOMO&Vj~ BOWLaNOG]PHIC FULL.TOP,<OSCOP",
   "|ICK FIGUREcesq~esF?RraleiMS ]ISy,DR^S@O(CK CHi?PWATCHaR:(r( RULn,N^SaWBnRYa^S OUTLky WHITE.Ti,",
   "I(CTLY EQUIVmxT TO,NG TnMkATORhS,U(DIO MIC_PHpjFFy FLATBREAD,PvXaU(BcS(CRIPTeE(r,QUmStaF(IVjOUR",
   "asFT Pix<^IS,MkUS,NkjpjPLUSt,Rr Pix<^IS,S(EVx,IXaT(HREjWOaZnOaETe+EeRrμu,SU(BSE?PnSEThOFce+EemM",
   "OST EQUm TO,EQUmSt,NOT EQUm TO,&LDE OPnATORaOR EQUm TO!lυ +|l NOT EQUm TOhleDO?MUL&PLICA&pt z,P",
   "LUSt zh&TUTEhCCEySce+EemMOST EQUm TO,EQUmSt,NOTemMOST EQUm TO,EQUm TOaS~s-LkEeEQUmSt,NOT EQUm T",
   "OhBUT NOT EQUIVmxT TO,OR EQU(m TO,IVmxT TOaUNDn RELA&phMMA&peBOTTOM,TOP,l kTEGRmaNceBEHkD CLOUD",
   ",l FAC|Dq^EeAVAG]HfCpSpqTt PA(M~Km,NY:KRfIKUaSqGqeMfWAhDdaZnOaδAc|B*HvCfDfEcUaF*kmeK,MhGfHf[JfK",
   "*HvL*EUaMfN*GfYvO,PfQfR*EUaS*YvTfU,VfWfXfYfZvPUNCTUA&p BkDUeBA.ATqGfCAKRfDA.ATqGfKA.ATqGfsU.ATq",
   "GfP(qGLpG,URNAMvSURYvSIGNePA(MAAEH,N(G(LAYi,WISADaYECEKhVI]MvVOWELt PA(MEPE?N:ELAxG,EUsUNG,GHUL",
   "U,OLpG,YUKU@FLOWn,RISE!OVn MOUNTAkSaSET OVn BUILD~SaPn(HnO,S(CRIPTeE(r,QUmStaF(IVjOURaL:Tk.MmL ",
   "δ[NaEFT Pix<^ISaMkUS,NkjpjPLUSt,Rr Pix<^IS,S(EVx,IXaT(HREjWOaZnOaETe+EesFTμu,SU(BSE?PnSEThB^IDE",
   "eqD JOky BY DASH l.UBSE?SUBSETaOFce+EemMOST EQUm TO,EQUmSt,NOT EQUm TO,&LDE OPnATORaOR EQUm TO!",
   "lυ +|l NOT EQUm TOhPRECy~.OLIDUS,leDO?MUL&PLICA&pt z,PLUSt z@VILLAkaRF:CE kTEGRm,naS(H[PxSIp ]I",
   "LWAYhW:(N,SH AMPnSqD ORNAMxTaIMMn,UNG DASHaY(LO& NAGRIeδfB(HO,OaC(HO,OaD(D(HO,OaHO,OajG(HO,OaHO",
   ",[J(HO,OaK(HO,OaLO,MO,NO,O,P(HO,OaR(O,_aSO,T(HO,O,T(HO,OhUaPOETRY>-(1,2,3,4aSIGNeA(LTnNATE HASq",
   "TfNUSVivDVISVifHASqTvVOWELtefj[OO,UhM(BOL FOReACKNOWsDGjB:CKSPACjELLaCA(NCEL,RRIAGE RETURNaD:TA",
   " LkK ^CAPjE(sTEcg TWOaVICE CpT_LeFOUR,pjT(HREjWO)@E(N(D OFeMyIUM,T(EX?RqSMISSIp!BLOCK@QUIRYaSCA",
   "P|F(Is.EPiATOR,ORM FEyaG_UP.EPiATOR,ζ TABULA&p,LkE FEy,MiKS CHAPTn,N(E(GA&VE ACKNOWsDGjWLk|ULLa",
   "RECORD.EPiATOR,S:MiITq.OURCjHIFTek,OUTaPACjTiT OFeHEAD~,TEXTaUBS&TUTEcg TWOaYNCHRpOUS IDsaTYPE ",
   "A EsCTRpICS,UNIT.EPiATOR,ψ TABULA&paMETRYaNcAGOGUjCHRpOUS IDsaRI:CeABBREVIA&p>,BiREKH,CO(Lp.KEW",
   "yesF?RraNT]C&paDOTTy ZLAMAeqGULi,ζaE(ND OF PiAG]PH,SASAe+jzhFEMkkE DO?H(iKsqeASTnISCUS,METOBELU",
   "S,OBELUSaBASA(e+jza-^ASAυTyaORIZpTm COLpaδmAPH,BE<,D(mA<,OTsSS DmA< RISHajFkm.EMKA<,GAMm!GiSHUN",
   "IaHEc<aKAPH,LAMADH,M(mAYmAMeBHfJfLL*LvN(GfN*NvYvRfSSfTTvIMaNUN,PEcRSIqeBHE<,DHmA<,GHAMmhQAPH,R(",
   "EVnSy PjISHaS:DHjEMKA<,Hk,OGDIqeFjKHAPH,ZHAkaUPnSCRIPT mAPHaT:W,E<!GiSHUNIhWAW,YUDH!H|ZAkaMUSIC",
   ",OBLIQUE LkEe+jzaP<AHAe+jz,DOTTyaQUSHSHAYfR(BASAe+jzaUKKAKHfWAHvSU(BLkEieCOLp!SKEWyesF?RrhFULL.",
   "TOPaPRmkEieCOLp!SKEWy sFTaFULL.TOPhT(HREEυSe+jzaWO ψυSe+jzhZQAPHAe+jz,DOTTyhNGE)))"]

def charNamesT : List String :=
  ["T(-(REX,SHIRTaA(Bcs TxNIS PADDs qD BmLaCO,G(eA(MPnSqD,POST_PHjSTnISKaC(IRCUMFsX ACCx?O(Lp,MM*nC",
   "Im AT@D(daZnOaOLLitaE(QUmSt,XCLAMA&p>aFULL.TOP,GR:VE ACCx?EATn-<qtaHYPHx-MkUS,L:TkeCAPITm sTTn$",
   "aSMmL sTTn$hE(FTeCURLYθ?Pix<^IS,SQUiEθTaSS-<qtaOW Lk|NUMBnt,P(nCxTt,LUStaQU(^&p>,OTA&p>aR(EVnSE",
   ".OLIDUS,reCURLYθ?Pix<^IS,SQUiEθThS(EMICOLp,OLIDUS,PAC|&LDjψ Lk|mOGeδAcRCHAIC RvBfDfGfHf[KfLfMfN",
   "*GvPfRfSfTfU,WfYvSIGNePAMUDPOD,VI]MvVOWELte[UhBqWAeδfBfDfGf[KfLfMfN*GvPfSfTfU,WfYvVOWELte[U@Ies",
   " δAc[U|EcjHaFfHf[K*HvLfMfN*GvOcOaP*HvQfSfT*HfpE-(2,3,4,5,6aS*HAhUc|VfXfYv<AMeCO(MBk~ CRYPTOG]MM",
   "IC DO?NSpqTteBfFkm NGfHIGH ]<A OR LOW PfL: TqG LA[OW PvM*yImeLf]hSAhHO] DdaZnOaδfBfDfEjGREAT.fH",
   "IGHeC*HvFfHfK*HfXvP*Hv]<fS*HfSvT*HvYvIcIaL:c|LfOWeC*HvFfHfK*HfXvP*Hv]<fSfT*HvYvU|MfN*GfYvOO,R:c",
   "NfTvU|UcUaWvSIGNeCAqG,DOKMA[H(qG,OYaK:qcKUUaEOW,HUx( TpE-(3,4,5a-LUE KiqhMAIeKqG!LAIaSAM,YAMOKa",
   "R: HAAM,EVnSy _TATy RqvSA(KO?TKAqcKUUaWqaTpE-(1,2aWIqGcWAAKh<AM DdaZnOaVOWELteAcfjIajIcIaMAI.A?",
   "OcAe+jzaO,YaT(mL AfHAM AIaUcjUcE)@VIETeδHIGHeBO,C(HO,OaDO,FO,GO,HO,K(H(HO,OaOaLO,MO,N(GO,O,YOaO",
   ",P(HO,Oa_,SO,T(HO,OaVO,YOaLOWeBO,C(HO,OaDO,FO,GO,HO,K(H(HO,OaOaLO,MO,N(GO,O,YOaO,P(HO,Oa_,SO,T(",
   "HO,OaVO,YOhMAI K(qG,HITaSYMBOLeHO HO[KO(I KO[NaNUxG,SAMaTpE MAIeEK,NUxG,SpG,<OaVOWELeA*M,N,UjYa",
   "jIcvO,UcfEcA))@K(EOUT BOX,RIeABBREVIA&pt,DdaZnOaδAcf[RCHAIC KHfκvLfMfN*GfNfYvO,P*HvR*RvS*HvT*Hf",
   "T*HAhUcUaVfYvSIGNeqUSVifNUKTfVI(]MfSiGAhVOWELteA*[UajIcIaO,UcU)@LLY>eFIVjp|M(mjILeA(ND ODDt,S +",
   "Et,U sNG<>aC(RyITt,URRxTtaD:Yt,EBITt,daZnOaRY CUL&VA&ptaF]C&peDOWNSCm~ FACTOR KIIZH,pEeEr(H,IE<",
   "aF(IF<,OR&E<aHmF-(1,2apE-HUNDRy-qD-SIX&E<,QUiTn,SIXT(Ex<-(1,2aY-FOUR<aT(x<,H(IRTY-SECpD,REE-HUN",
   "DRy-qD-TWx&E<aWx&E<h<REEeErIE<S,QUiTnS,SIXT(Ex<S,Y-FOUR<SaTWx&E<Shk POSS^SIpt,L(qDt,ETTneAcf[Ua",
   "CfEc|HfIcIaJfKfL*L*LAhMfN*GfN*NvYvOcOaPfR*RvS*HfSvT*TvUcUaVfYAhMp<t,NUMBnepEεaSIGN,TxaOM,PUNCTU",
   "A&p xD OF TEX?RUPEEt,S(mT Pqt,IGNeA:ZHAAKKU,NUSVivCEVITU,K:ACU,U(RUN[ZHIhMU(KKURUN[<mIYfUVUZHAK",
   "KUaNEL,P:(iAM,NAM,<AKKUapaUZHAKKU,V:(KAIYiAf]AKqaEL[I(]MfSiGA@PxTt,TiT~ F_MtaT(OTmt,]DI&pmeCRyI",
   "Tt,NUMBnthVOWELteA*[UaEc|IcIaOcOaUcUhWET CUL&VA&pt,YEithN:BATA TREjG(nkjSAeDdaZnOaδA(C,Q,W(C,Q,",
   "X,ZaX,ZaBfC*HvD*HvE(C,Q,X,ZaF*km NGaG*HvH*T*TAhI(C,Q,X,ZaK*HvL*pG UEXaM*C,Q,X,ZaN*GfHfYvO(C,Q,X",
   ",ZaP*HvRfS*H*ORTeAWX,UEZ@T*HfSvU(C,E(C,Q,X,ZaI(C,Q,U(C,Q,X,ZaX,ZaQ,X,ZaV(C,Q,X,ZaWfXfYfZAhUTeCO",
   "MPpxT-(0(0(;,πa1(ba2(ba3(ba4(ba5(ba6(ba7(ba8(ba9(bh1(0(ba1(ba2(ba3(ba4(ba5(ba6(ba7(ba8(ba9(bh2(",
   "0(ba1(ba2(ba3(ba4(ba5(ba6(ba7(ba8(ba9(bh3(0(ba1(ba2(ba3(ba4(ba5(ba6(ba7(ba8(ba9(bh4(0(ba1(ba2(b",
   "a3(ba4(ba5(ba6(ba7(ba8(ba9(bh5(0(ba1(ba2(ba3(ba4(ba5(ba6(ba7(ba8(ba9(bh6(0(ba1(ba2(ba3(ba4(ba5(",
   "ba6(ba7(ba8(ba9(bh7(0(ba1(ba2(ba3(ba4(ba5(ba6(0,;,6,7,8@ITnA&p>@PEeCiTRIDGjDRIV|URUS,XIaE:(CUP ",
   "lOUT HqDLjPO?R(-OFF CmxDi,D_P-(BiBy Rrμu,SPOKy ASTnISK@DDY BEi,L(E(PHpEeLOCA&pt,p TOP OF MODEM,",
   "REC(EIVn!l PAG|ORDnaSIGNaSCOPjVISIpaUGUeAI sNG<>,DdaZnOaF]C&p DIGITepE FOReEVx POWnS OF FOUR,OD",
   "D POWnS OF FOURaT(HREE FOReEVx POWnS OF FOUR,ODD POWnS OF FOURaWO FOReEVx POWnS OF FOUR,ODD POW",
   "nS OF FOURhZnO FOR ODD POWnS OF FOURas(NG<>,TTneAcf[UaB*HvC*HvD*D*HvHfZvEc|G*HvHfIcIaJ*HvK*HvL*",
   "L*LAhMfN:cKAiA POLLUaGfNfYvOcOaP*HvR*R*]hS*HfSvT*HfSfT*HAhUcUaV*ρ@YAhSIGNeA(NUSVifVAG]HvC(qD]Bk",
   "DU,OMBk~eqUSViA +jCqD]BkDU +EhNUKTfSIDDHAM,TUUMU,VI(]MfSiGAhVOWELteA*[UaEc|IcIaOcOaUcUaVρ))@N(G",
   "Et,NIS ]CQUET qD BmL,TaST TUBjT]G]M FOReA(CCUMULA&p,DVqCjGG]VA&p,SCxTaB(iRIn,OLD R^OLU&p,RqCH~ ",
   "OUTaC(xTRjHqGjLOS(E(D MOU<,N^SaUR|O(MPL(E&p,IqC|N(STqCY,T:C?x&p,RiIETY)@D(iKx~,E(CISIVx^S,FEC&V",
   "x^S OR DISTOR&p,PiTUR|I(FFICUL&^,M(kISHMx?M~aVnGxC|OUB?U&^aE:SjMBELLISHMx?N(COUNTnS,DEAVOUR,LiG",
   "EMxTaTnNITY,XHAUS&paF:ILURjLr,O(LLOW~,STn~aULL( CIRCLjN^ShG:<n~!kaO~ TO MEE?REATN^S,UiDyN^SaH(i",
   "DN^S,OLD~ BACKak(CREASjNnaJOY,K(EEP~.MmL,kSHIPaL:(BOUR~,W OR MODELaEGIpaM:SS~,EASURjIRyaO(N <E ",
   "VnGjPPOSI&paP:(CK~,TTnNaxET]&p,URITYaR(E:CH,sASjS(I(DxCjSTqC|PpSEhITUmaS(EVnqCjkK~,T(O(PPAGjV|R",
   "xG<hUNITY,VASTN^S OR WAST~,WA(IT~,TCHaYOU<FULN^ShH:(qAeA:BAAFIL[BAFILIaE(BEFIL[EBEEFIL[YBEYFILI",
   "aIBIFIL[δA(kU,LIFUaBAfCHAVIYq[D::DHU,VIYqIaHAmUaFAAFU,G:AFU,HAkU,NAVIYqIaH:fHAvJAVIYq[K:AFU,HAv",
   "L:AMU,HAVIYqIaMEEMU,N:fOpUaPAVIYq[QAAFU,]fS:ADHU,ExU,H:VIYq[ExUhT:VIYq[HAAcLUaO,TAvVAAVU,WAAVU,",
   "YAfZ:*VIYqIaOhO:BOAFIL[BOFIL[OBOOFILIaSUKUN,UBUFILIaIeC(HiACTneqGKHqKHU,BO BAIMA[CHO CH(qcGa~,O",
   "|DOeCHADfDEKaFO( FAcNaNGMqaHOeHIP,NOKHUKaK(HO(eKH:[p,UA?WAIa]KHqGaMUTaO KAIaL:KKHqGYAO,OeCHULfL",
   "~aUaM:I(eCHATTAWfEK,Hq-AKA?T(HO,RIhTAIKHU,YAMOKaO MvN(GO NGU,IKHAHI?O N(x,UhO qG,P:IYqNO[H(k<U,",
   "OePH(q,UNGaSAMPHAOhO PLvR(O RUfUaS(iAeAcfjI MAIM(mA[UqaMajIcIaO,UcEc|UhOeRUS[S(mfO,UA@T(H(q<AKH",
   "A?OeNqGMp<O,PHU<AO,<:(Hq,NapG,UNG@OePATAK,TAOhWO WAx,Y:MAKKq,O Y:K,~@URRxCY= BAHTaDdaZnO@n(E(eD",
   "O^ NOT EXIS?EXISTSaFOR|MO(DYNAMIC,METnhI(N(eGREEK C_SS,S(m&RjPACEhK~ FAC|RD PLACE MymaO(NG.qDm,",
   "UGHT BmLOpaREE(eBUTTp MOUSjCpSECU&VE EQUmStS,D(IMxSIpm qGLjOT PUNCTUA&paL(EFTμuS,k^ CpVnG~esF?R",
   "rhNETWORKy COMPUTnS,POkTy τ.Ti,R:YSe+jz,sF?RrarμuSaSPEECH BUBBsSa-(DeBOTTOM-Lry RrμuHEAD,sFT-Lr",
   "y DOWNμ EQUILATnmuHEAD,Rr-Lry UPμ EQUILATnmuHEAD,TOP-LryesFTμ EQUILATnmuHEAD,Rrμei_WHEAD,EQUILA",
   "TnmuHEAD@EM DASH,Pn-EM.PACEhU(MBSeDOWNt,UPtaNDn( CLOUD qD ]k,STORM@I(BETqeAST_LOGICmte-KHYUD Pf",
   "S(DpG TSHUGS,G] GCq -CHi RTAGShCq&LLA&pteCqG TE-U,HEAVY BEA?Lr BEA?SBUB -CHmaDIGITeEr,F(IVjOURa",
   "HmFeEr,F(IVjOURaNkjpjS(EVx,IXaT(HREjWOaZnOaNkjpjS(EVx,IXaT(HREjWOaZnOaKU RU KHA!BZHI MIG CqaL(E",
   "TTne-ffB*HvC*HvD*D*HvHfZ*HAhFIXy-FORM RfG*HvHfJfK*HfKfSSvLfMfN*GfNfYvP*HvR*RvS*HfSvT*HfS*HvT*HA",
   "hWfYfZ*HAhOGOTYPEteCHAD RTAGS,LHAG RTAGShMiKeqG KHqG GY:S,paB(KA-.HOGeGI MGO RGYq,YIG MGOaS(DUS",
   " RTAGS,K:-.HOG GI MGO RGYq,UR YIG MGO@C(iETe-DZUD RTAGSeBZHI MIG Cq,ME LpG CqaYIG MGO PHUR.HAD ",
   "MvHE MGO,LOS~eBRDA RNY~ YIG MGO.GAB MfYIG MGO.GAB MAhDELIMITn TSHEG BSTi,G(TneTSHEG,YIG MGOe-UM",
   "eGTn TSHEG MfRNAM BCAD MvTRUNCATy AhUG RTAGS GY:S,phHmqTfk(I&meBRDA RNY~ YIG MGO MDUN MfYIG MGO",
   " MDUN MvTnSYLLABIC TSHEGasAD~ MCHq RTAGS,MNYAM YIG GI MGO RGYq,N(GAS BZUNGeNYI ZLfSGOR RTAGSaYI",
   "SeSHAD,TSHEG!SHAD@PmUTfR(GYA G]M.HAD,k CHx.PUNGS.HADaS(BRUL.HAD,HADaT(]IL~ MCHq RTAGS,S: -PHRU,",
   "HEG.HADhYIG MGO TSHEG.HAD MvS(IGNeGRUeCq RGY~S,My RGY~SakVnTy MCHU Cq,LC(E TSA Cq,I RTAGSaM(i T",
   "SH^,CHU CqaNYI ZLA NAA DfR(DELeDKieG(CIG,NYIS,SUMaRDEL NAGaNAGeG(CIG,NYIS,SUMaRDEL DKihJ^.U NGA",
   " _,NAM BCADaSNA LDq,YA(NG RTAGS,R TSH^hUBJOkyeδ-ffB*HvC*HvD*D*HvHfZ*HAhFIXy-FORMeRfWfYvG*HvHfJf",
   "K*HfSSvLfMfN*GfNfYvP*HvRfS*HfSvT*HfS*HvT*HAhWfYfZ*HAhSIGNekVnTy MCHU Cq,LCE TSA Cq,MCHU CqhY(LL",
   "ABs OM,MBOLeDRIL BU,NOR BUceBZHI -KHYIL,GSUM -KHYIL,NYIS -KHYILhP:DMA GDq,HUR PvRDO RJE!RGYA G]",
   "M)@VOWELteAfEc|IcIaOcOaREVnSy IcIaUcUaVρ)@CKE?E OVn kFkITY,FkAGHeCpSpqT JOkn,δA(HAGGi YAZH,Yn Y",
   "AGHaBnBn ACADEMY YA(H,JaT:WELsMET YAZ,UiEG YA(G(H,NaH,KcHaNG,Q,ZHhY:cfBcHaCH,DcDcHaHaF,GcHcHhHc",
   "HaJ,KcHcHhL,M,N,P,Q,RcRaScH,SaTcH,TaV,W,Y,ZcH,ZhEcYa[O,UhMODIFIn sTTn LABImIZA&p>,SEPiATOR>aG(n",
   "!FAC|HT TRIFOLIATE.NOWFLAK|LDEceOPnATORce+EesFTμu,RrμualeDOT +jRIS~υS@leDOTe+jzaR~ +E@ME(R CLOC",
   "K,S lesFT HmF τ,Rr HmF τhNY!TWOυS OVn pEυ PUNCTUA&paR(y FACjHUTAeA(BBREVIA&pt,NJIaDdaZnOaGVqG,δ",
   "Acf[κvLfMfN*GfNfYvO,P*HvRfS*HfSvT*HfT*HAhUcUaV*ρ@YvOM,SIGNeA(NUSVifVAG]HvCqD]BkDU,NUKTfVI(]MfSi",
   "GAhVOWELteA*[UajIcIaO,SHORTejOaUcUaVρ)@pIqteCAPITm E?ET@O(Is?KYO TOWn,MATO,NGUjO(LBOX,<cBRUSHhP",
   "eiCeq&CLOCKWISEu!l PLUSaCLOCKWISEu l MkUSaCURLYθ?HA(LFeτ CIRCLjkTEGRm,sFT Pix<^IS,Rr Pix<^IS,SE",
   "C&ptaTasFTeC(ORNn,_PaHmFθTaPix<^IS,RreC(ORNn,_PaHmFθTaSQUiEθ?TORTOISE.HELLθ?l UPμu +|RTOISE.HEL",
   "LθTyeCJK UNIFIy IDEOG]PH-(4E(09,8Ca5(2DD,B89a6(253,557,72Ca7(0B9,6D7hLATk CAPITm sTTn.aT(m RUNO",
   "U?OeδAc|B*REA<YeAjEcOaIcU@CHfDfEcOaGfHfIcUaJfKfLfMfN*GvO,PfRfSfTfU,WfYvSIGN RIS~ TpE@R:(C(KBmL,",
   "TORaDE>t,k,M!CiaNS(PLUTO,VnSm kTnSEC&phI(qG(s( leDOT +j_UNDy CORNnS,SnIFS AT BOTTOM,UNDnBia-HEA",
   "Dy RrμuaULieBULs?FLAG p POS?RULnhCOLp,DxT EMBsM,G]M FOReEi<,FIRjHEAVx,LAKjMOUNTAk,<UNDn,W:Tn,kD",
   "hPseCOLp OPnATOR,DAGGn,ζ Bi leω ψ.T_KjTRIPs ψ.T_K|kTEGRm,N^TyeGREATn-<q,sSS-<qaP(LUS,RIM|SOLIDU",
   "S BkiY RELA&p,&LDjψ BieBkiY RELA&p,DELIMITn,Rr TURNS&Ljl ζ.T_KE@O(LLcEYBUSaP(HY,ICmeDRkK,FISH@U",
   "(E!Lr MOp iTvMPEThU(GRIKt,LIP,MBLn GLASS,R(K(EY,ISH LI]taNyeA(MPnSqD,NGsaτePxTAGp,SHOGI PIEC|C:",
   "PITm F,OMMvD:GGn,IGIT T(HREjWOhGREEK.MmL sTTn IOTfNO(R<eEAST POkT~ sAF,W^T POkT~ sAFaTtaOK HqDt",
   ",S(qS-SnIF CAPITmeG,L,YaEMICOLp,MmL F,OU<eEAST POkT~ sAF,W^T POkT~ sAFhWHITE.HOGI PIEC|TshW(ELV",
   "E POkTy τ.Ti,ISTy RrμuS,O(eASTnISKS mIGNy ψLY,BUTTp MOUSjCpSECU&VE EQUmStS,DOT(esADn,PUNCTUA&pa",
   "S OVn pEυ PUNCTUA&paHEiTS,kTnSECT~ LOGICmeqD,ORaJOky.QUi^,LOGICmeqD OPnATOR,OR OPnATORaMx HOLD~",
   " HqDS,SPEECH BUBBsS,WOMx HOLD~ HqDSa-EM DASH)))"]

def charNamesU : List String :=
  ["U(GiI&CeδA(k,LPvBETfD(ELTfHmaG:MLfHAkaHOcTv[K:F,HvLAMDfMEM,NUN,PU,QOPf]SHfS:(DjMKvHk,SUaT(E?HqN",
   "fOaU,WO,YOD,Z(ETfUhWORD DIVIDnaMBRELLAcep G_UND,l ]k D_PShN:MUSy FACjCnTAkTYt,D(n&jO=aI(CORN FA",
   "Cjpce+EeBi +E kTnSEC&p,kTnSEC&paB^IDE qD JOky l UNIp,leLOGICm OR,MkUSt,OVnBi@T(.EPiATOR,y=aVnSm",
   " RECYCL~=aMiRIy PiTNnSHIP=aP(ei_W( <_UGH CIRCLjHEADceBETWEx TWO ζ BiS,k A RECTqGs BOX@BiBesFT D",
   "OWN BiBesFT HiPOp,Rr HiPOpaRr DOWN BiBesFT HiPOp,Rr HiPOphDOWNei_W!l BAS|τu,ωu,SqS-SnIFu,TRIqGs",
   "-HEADyu,WHITEuaFISH TAIL,Rr DIAGpm ELLIPSIS,TACK!l CIRCs +Eh-POkT~eAIRPLqjMILITiY AIRPLqjRy TRI",
   "qGLjSMmLeAIRPLqjRy TRIqGsaTRIqGs lesFT HmF τ,Rr HmF τhPneqDeL(EFT qD LOWn TRIqGULi <REE QUiTnS ",
   "BLOCK,OWnepE ErH BLOCK,TRIqGULi HmF BLOCKhRr qD LOWn TRIqGULi <REE QUiTnS BLOCKaBLADE.CISSORS,F",
   "IVE ErHS BLOCK,HmFeBLOCK!qD LOWn HmF kVnSE MyIUM.HAD|CIRCLjkVnSEeMyIUM.HADE qD LOWn HmF BLOCK,W",
   "HITE CIRCsaMyIUM.HAD|sFTeBLOCK DIAGpmeLOWneCxTRE TOeLOWn ξRr,UPPneξRr,RrhsFT TOeLOWn ξRr,UPPneC",
   "xTRjξRrhξsFT TO UPPneCxTRjξRr,RrhUPPn ξsFT TO UPPneCxTRjRrhCORNn l DO?OR LOWn Rr CURLYθT.EC&p,Q",
   "UADRqT CIRCULi iC,T(O LOWn Rr FILL,RIqG(LjULi MyIUM.HADE@pEeErH BLOCK,QUiTn BLOCKaRreBLOCK DIAG",
   "pmeLOWn ξsFT TO LOWneCxTRjRraUPPneCxTRE TOeLOWneξRr,RraUPPn ξRrasFT TOeLOWneCxTRjξRraUPPn ξRraξ",
   "sFT TO LOWneCxTRjξRr,Rr@D_P-SHADOWy WHITE.QUijOR LOWn sFT CURLYθT.EC&p,PxCIL,QUADRqT CIRCULi iC",
   ",SHADOWy WHITEeCIRCLjSQUi|T(O LOWn sFT FILL,RIqG(LjULi MyIUM.HADE@SEVx ErHS BLOCK,T(HREEeErHS B",
   "LOCK,QUiTnS BLOCKaRIqGULi pE QUiTn BLOCKhSIDE-DOWN FACjμeA(NCORfR_WceqD Rr pE ErH BLOCK,F_M Bi,",
   "sFTμ OF DOWNμu,TO Bi,leω.T_KjEQUILATnmuHEAD,ζ.T_KjLiGE TRIqGsuHEAD,MyIUM TRIqGsuHEAD,NOTCHy TAI",
   "L,SMmLeEQUILATnmuHEAD,TRIqGsuHEADa&PesFTμ,Rrμ))@τei_W,CIRCsD WHITEuaCOMPR^Syu,D:SHyu,OUBsuaF~n-",
   "POSTu,H(iPOp l BiBesFT(eB^IDEeDOWNμ HiPOp l BiB Rr,UPμ HiPOp l BiB RraF_M Bi,TO BiaμaRr(eF_M Bi",
   ",TO BiaμhEAVYei_W,COMPR^SyuhPAIRyuS,QUADRUPsu,_CKE?S(qS-SnIFu,QUiyuaT(RI(qGs(uHEAD,-HEADyei_Wce",
   "sFTμ OF DOWNμ TRIqGs-HEADyu,TO Bi,leBOLD.HAF?ω ζ.T_KjHEAVY.HAF?LpG &PesFTμ,RrμaMyIUM.HAF?Ni_W.H",
   "AF?VnY HEAVY.HAFT@DASHyu,PAIRyuShPsuaWO( HEADyu,-HEADyueF_M.MmL CIRCLjl TRIqGsuHEADS@WHITEei_Wc",
   "eF_M Bi!l ζ Biap Py^Tm!leζ Bi,ψ Bihlk TRIqGsuHEADhωu!p Py^Tm)@RqUS,S)"]

def charNamesV : List String :=
  ["V:(IeCOMMfDdaZnOaFULL.TOP,QU^&p>,SY(LLABseAcNaB*Ec|H*Ec|[OcOaUa[OcOaUaC*Ec|[OcOaUaD*Ec|H*Ec|H*E",
   "c|[OcOaUa[OcOaUa[OcOaUaEcEcNaNaF*Ec|[OcOaUaG*B*EcjNa[OcN,OaUaEcjNa[OcOaUaH:cNaEcjNaIcNaOcN,OaUc",
   "NhIcNaJ*Ec|[OcOaUaK:cNaEc|[OcOaP:cNaEcjNa[OcOaUaUaL*EcjNG<xna[OcOaUaM*B*Ec|[OcOaUaEc|GB*Ec|[OcO",
   "aUa[OcOaUaN*D*Ec|[OcseDO,FfKfMfSOOaOaUaEc|Gcq,x,G*EcjNa[OcOaUapa[J*Ec|[OcOaUaOcOaU,Y*Ec|[OcOaUh",
   "OcN,OcNhP*Ec|[OcOaUaR*Ec|[OcOaUaS*Ec|H*Ec|[OcOaUa[OcOaUaT*Ec|H*Ec|[OcOaUa[OcOaUaUcNaV*Ec|[OcOaU",
   "aW:cNaEcEcNaNaIcNaOcN,OcNhUcNhY*Ec|[OcOaUaZ*Ec|H*Ec|[OcOaUa[OcOaUhMBOLeBqG,D(qG,O(-O,pGhF:fExGa",
   "JpG,K(ExG,UNGaNI[T:f~,pG)@MPIRjRIA&p.EsCTOR-(1c0cba1cba2cba3cba4cba5cba6cba7cba8cba9cbh2c0cba1c",
   "ba2cba3cba4cba5c0,;,6aπa3cba4cba5cba6cba7cba8cba9cb@E(CTOR OR C_SS P_DUC?DICeSIGNeA(NUSViAeqTiG",
   "OMUKHfBAHIRGOMUKHfUBHAYATO MUKHfVAMAGOMUKHA!l TAILhRDHAVISiGf&K]Mvω qUSViA qTiGOMUKHfHEXIFORM L",
   "pG qUSVifJIHVAMULIYfLpG qUSVifNIHSHVASfR(EVnSy VISiGAeqUDATTfUDATTvOTATy iDHAVISiGf<qG LpG qUSV",
   "iv&RYAK,UPADHMqIYfVISiGAeqUDATTA!l TAILaSViITfUDATTA!l TAILhYAJURVyIC MIDLkE.ViITvTpEeA<iVAVyIC",
   " kDEPxDxT.ViITfCqD]e+jzaDO(T z,UBseR~ +jSViITAhKA(RSHqf<AKA qUDATTvPRxKHfRI(GVyIC KASHMIRI kDEP",
   "xDxT.ViITfNG +|SHifT(HREEυS z,RIPs.ViITfWOυS zaYAJURVyICeAGG]VATy kDEPxDxT.ViITfkDEPxDxT.ViITfK",
   "A<AKA kDEPxDxT.ViITA!SCH_yn)@R(SICLj&CmeBieB^IDE Rr TRIqGLjω sFT TURNS&LjTRIPs Rr TURNS&Ljl ζ.T",
   "_K|ELLIPSIS,FOURυS,IDEOG]PHIC ITnA&p>,KqA REPEATeMiKceLOWn HmF,UPPn HmFhl VOICy.OUND>!UPPn HmFh",
   "LkEceEXTxSIp,leCIRCse+jzaξDOT@MmE l.T_KEt,pE ErH BLOCK-(2,3,4,5,6,7aSIXυS,T:B( KEY,ULA&p!SEThIL",
   "Dj]FFIC LraZIGZAG Lk|YeBOLD GREEK C_SS,HEAVYeErePOkTy τ.Ti,SPOKy ASTnISKaFIVE.POKy ASTnISK,GREE",
   "K C_SS,REVnSE.OLIDUS,S(m&RjIX.POKy ASTnISK,OLIDUSaWHITEeCIRCLjSQUiEhMUCHeGREATn-<q,sSS-<q@STvI(",
   "B]&p MODjCTORY HqD,DEO(eCAMnfGAM|CASSETT|E(TNAM^E mTnNATE READ~>eCfNHAYaWDATA.QUi|OLk,RGO,<KUQI",
   "eCAPITm δfB(Bj|C(jH|D(jH|EcIaFjGfH*HvIcJ|JjKfL*LvMjN(jJ|O,PjQfRjS(jH|T(jH|U,VjXjY,Z|SMmL δfB(Bj",
   "|C(jH|D(jH|EcIaFjGfH*HvIcJ|JjKfL*LvMjN(jJ|O,PjQfRjS(jH|T(jH|U,VjXjY,ZE@O(IDy GREEK C_SS,L(CqO,s",
   "YBmL,UME kTEGRmhS(1c0cba1cba2cba3cba4cba5cba6cba7cba8cba9cbh2c0cba1cba2cba3cba4cba5c0,;,6aπa3cb",
   "a4cba5cba6cba7cba8cba9cbhTcSaUL(CqUS,Gi F]C&peF(IVEeErHS,SIX<SaOUR FIF<SapEeErH,FIF<,HmF,Nk<,QU",
   "iTn,S(EVx<,IX<aT(x<,HIRDhSEVx ErHS,T(HREEeErHS,FIF<S,QUiTnSaWOeFIF<S,<IRDShZnO <IRDS)))"]

def charNamesW : List String :=
  ["W:(FFLjN(CHOeDdaZnOaδAcAcNcGhNG,UaBfCfDfEcNaFfGfHfIcNGaJfK*HvL*LHvMfN*GfYvOcNcGhP*HvRfS*HvT*HfR",
   "fSvUcxaVfWfY*IHaZvNGUNt,TpEeKOIcNIaTUPcNI@~eCR^CxT MOp=,GIBBOUS MOp=hR(qG CI&eCAPITm δAcM,NG,Ta",
   "BU,DfEcN(N,YhGfH(i,IYO,O(LO,RRhI[KO,N(GAfUNGaOcDDaPU,S(I[SUUaTTjU(C,UaVIYO,W[Y*O,UcJ@DdaZnOaNUM",
   "BneErY,F(IFTY,ORTYaNkETY,S(EVxTY,IXTYaT(x,HIRTY,WxTYhOM,SMmL δAcM,NG,TaBU,DfEcN(N,YhGfH(i,IYO,O",
   "(LO,RRhI[KO,N(GAfUNGaOcDDaPU,S(I[SUUaTTjU(C,UaVIYO,W[Y*O,UcJ)@N~taSTEBASKE?T(CH,n(eBUFFmO,CLOSE",
   "?POLO,WAV|MELphV(Eei_W POkT~ DIRECTLYesF?RraDASHa~eτ FLAG,HqDt,WHITE FLAGaYeDASH,L(kjOW Lk|OVnL",
   "kEhX~eCR^CxT MOp=,GIBBOUS MOp=hE(iYeCAT FACjFAC|D(D~,GE-TAIsD RrμuaI(nST]SS ELLIP&C FUNC&p,GHT ",
   "LIFTnaST.YRIAC C_SSaH(mjEEL!OF DHiMfCHAIR=aITE(ei_W.HAFT WID<epjTWO <IRDSaBULs?C(H^SeBISHOPβEQU",
   "IHOPPn!_TATy NkETY DEGRE^aK(~βNr!_TATyeFORTY-FIVE DEGRE^,NkETY DEGRE^,pE HUNDRy <IRTY-FIVE DEGR",
   "E^,T(HREE HUNDRy FIFTEx DEGRE^,WO HUNDRyeSEVxTY DEGRE^,TWxTY-FIVE DEGRE^@-(BISHOP,QUEx,_OK@PAWN",
   "βQUExβ_OKβTURNyeBISHOP,K(~,NraPAWN,QUEx,_OKhIRCsceCpTAk~ τ.MmL CIRCLjleDO(T Rr,WNuaLOWnesFT QUA",
   "DRq?Rr QUADRqTaTWOυS,UPPnesFT QUADRq?Rr QUADRqT)@LUB.UI?pCAVE-SIDy DIAMpD!lesFTμ &CK,Rrμ &CK@D(",
   "IAMpDceCpTAk~ τeMyIUM DIAMpD,SMmL DIAMpD,VnY.MmL DIAMpDak.QUijSUI?l CxTRyυhOWN( POkT~eBACKHqD k",
   "DEX,kDEX,sFT HqD kDEXa-POkT~eSMmL TRIqGLjTRIqGsh]UGHTSeK~,MqhEXCLAMA&p> ORNAMx?F(L:G!l ζ ξτ.TRI",
   "P|O(RETTjWnhOUR POkTyeCUSP,STia_WN~ FAC|H(iD.HELL FLOPPY DISK,E:(RT!SUITaVYeCHECK>,Sm&RE l _UND",
   "y CORNnShXAGpaO(RIZpTm ELLIPSjURGLASShL:(RGE.QUijTk C_SSaEFT(eLqE MnGjPOkT~eBACKHqD kDEX,kDEXh-",
   "POkT~ePOkTn,SMmL TRIqGLjTRIqGshOZxGE CpTAk~ τ.MmL LOZxG|M(yIUMeDIAMpD,LOZxGjS(MmL.QUijQUijTihOp",
   ".EsNvNIB,P(imsLOG]M,x(Nq?TAGphQU^&p> ORNAMx?R(ECTqGLjr( POkT~eBACKHqD kDEX,kDEXa-POkT~eP(xTAGp,",
   "OkTnaSMmL TRIqGLjTRIqGs@S(CISSORS,^AME DO?HOGI PIECjM(mLeLOZxGjS(QUijTihIL~ FAC|PADE.UI?QUiEceB",
   "UTTp,CpTAk~ τeMyIUM.QUijSMmL.QUijVnY.MmL.QUi|leCxTRE ψ LkjL(EFTμ &CK,OWnesFT QUADRq?Rr QUADRqTh",
   "R(rμ &CK,OUNDy CORNnSaUPPnesFT QUADRq?Rr QUADRqTaψ BISECT~ LkE@Ti,UNceBEHkD CLOUD!l ]kale]YS,SM",
   "mL CLOUD)@T(EsPHpjOUCHTpE TEsPHpjR:PEZIUM,IqGs CpTAk~.MmL WHITE TRIqGsaWO-WAY sFT WAY T]FFICaUP",
   "( POkT~eBACKHqD kDEX,kDEXa-POkT~eCHEVRp,SMmL TRIqGLjTRIqGs!lυ@Vn(&CmeBi,ELLIPSjRECTqGsaY.MmL.QU",
   "iEh-FEA<ny RrμuhI(DE-HEADyeDOWNμσasFTμσaNOR<eEASTσaW^TσhRrμσaSOU<eEASTσaW^TσhUPμσhGGLY ψ LkjLTy",
   " FLOWn,N(D(eBLOW~ FACjCHIM|OWaE GLASS,K~ FAC|Ry KEYBOiDaJ,O(LF FACjM(q!l BUNNY EiS,SeBOOTS,CLO<",
   "^,HA?SqDmhxS=aNt,OD,R(DeJOkn,SEPiATOR ξDOTaLD MAP,M,RIy FACEhR:PPy PR^x?E:< P_DUC?NCH,STLnSaIT~",
   " HqD))"]

def charNamesX : List String :=
  ["X( k A RECTqGs BOX,-]Y,IqGQIeτeC(qNp,HiIOTaEsPHq?Gxnm,HORSjMqDik,SOLDInaRyeC(qNp,HiIOTaEsPHq?Gx",
   "nm,HORSjMqDik,SOLDInhOR)"]

def charNamesY : List String :=
  ["Y:WN~ FACjE(LLOW HEi?Nt,ZIDIeCOMBk~eHAMZA>,MADDA>aHYPHxA&p>,δBjC(H(HIM,IMaIMaDA(D,LaE(LIF,?W,YN",
   "aFfGAF,H:Y,HvJfK:F,HAFaLAM!lυ +|MIM,NUN,OW,P(jH|QAF,R*HvS:D,jHk,kaT*H|UM,VA!mTnNATEgaWAW,X*HEYN",
   "aYOT!l CIRCUMFsX +|Z:cLaE)@I(e]DICmeB(BU?URaC(HjIP,UOP,YcP,ThD(DUR,UaG*EP,G(OP,UOaOTaH(MO,X(I?O",
   "P,UOhJ(J(IjU?YaOaK(jITaL(Ic|YRaM([OPaN(BIjY(IP,OPaZUPaOP,P(U?YTaQO?S(H:?OP,UR,YaSIaT:?UaV(EP,UR",
   "aWO,Y(I?OaZ*O?U(P,RaZIEThSYLLABseAηB:ηB:ηEcP,XaIcEηP,?XaOηUcOcP,XaχaYcP,?XhEcP,XaIcEηP,?XaOηUcO",
   "cP,XaχaYcχhC:ηEcP,XaH:ηEηOηUcOηP,RcXaXaYcχhIcEηP,?XaOηUcOcP,XaχaYcχhD:ηD:ηEcP,XaIcEcP,XaP,?XaOη",
   "UcOcP,XaχhEcP,XaIcEcP,XaP,?XaOηUcOcXaχhEcXaF:ηIηOcP,XaUcχaYcP,?XhG:ηEηG:ηEηIcEcP,Xa?XaOηUcOηχhI",
   "cEηP,?XaOηUcOηχhH:ηEcP,XaI(EcXaTaL:ηEcP,XaIcEcP,XaP,?XaOcP,XaUcOcP,XaχaYcχhM:ηIcEcP,XaP,?XaOηUc",
   "OcP,XaχaYcP,RcXaXhN:ηEcP,XaIcEηP,?XaO(P,?XaU(OcXaThOηUOηX:ηEcP,XaIcEηP,?XaOηUOcP,?X@IcEηP,TcnA&",
   "p>aXaJ(IcEηP,?XaJ(IcEηP,?XaOηUcOcP,XaχaYcP,?XhOηUcOηχaYcχhK:ηEηIcEcP,XaP,?XaOηUcOcP,XaχhL:ηEcP,",
   "XaIcEηP,?XaOηUcOηχaYcχhM:ηEcXaG:ηEcP,XaIEcXaOηUcOcP,XaχhIcEcP,XaP,?XaOηUcOηχaYcP,?XhN:cP,XaB:ηI",
   "cEcP,XaP,?XaOηUcχaYcχhD:ηEcP,XaIcEcXaP,?XaOηUcχhEcP,XaG:ηEcP,XaIEcP,XaOηUOc?XhIcEcP,XaP,?XaJ(Ic",
   "EηP,?XaOηUcOcXaP,RcXaXaYcχhOηR:ηEηOcP,XaUcχaYcχhUcOcP,XaχaY(IcEηP,?XaOηUcOcP,XaP,?XhZ:ηEcXaIcEc",
   "P,XaP,?XaO(P,XaUcOcXaP,RcXaXaYcχ@OηP:ηIcEcP,XaP,?XaOηUcOcP,XaχaYcχhQ(IcEηP,?XaOηUcOηχaYcχhR:ηEc",
   "P,XaOηR:cXaEηOηUcOcXaχaYcχhUcOcP,XaχaYcχhS:ηEcP,XaH:ηEηOηUcOcP,XaχaYcχhIcEcP,XaP,?XaOηS:ηEcP,Xa",
   "IcEcP,XaP,?XaOηUηYcχhUcOcP,XaχaYcχhT:ηEcP,XaIcEcP,XaP,?XaOηUcOηχhUOcP,XaV:ηE(P,XaIcEηP,?XaOηUcχ",
   "aYcχhW:ηEcP,XaOcP,XaUcOcP,X@X(IcEηP,?XaOηUOcXaYcχhY(IcEηP,?XaOηUcOηχaYcχhZ:ηEcP,XaH:ηEηOηUcOcP,",
   "XaχaYcχhIcEcP,XaP,?XaOηUcOcP,XaχaYcχaZ:ηEcP,XaIcEηP,?XaOcP,XaUcP,RcXaXaYcχ))@N YqGaO-YO)"]

def charNamesZ : List String :=
  ["Z( NOTA&peBAG MEMBnSHIP,DOMAk q&R^TRIC&p,sFTeBkD~θ?IMAGEθTaR(qGE q&R^TRIC&p,ELA&pm COMPOSI&p,re",
   "BkD~θ?IMAGEθThS(CHEMAeCOMPOSI&p,P(IP~,_JEC&phPOTaTYPE COLpaqABAZi.QUiEeCL(OS~eω-Lky HEAD>,HEAD>",
   "aUSTn-(Fkm δLfRfVfYvkI&m sTTn ]hFkm CpSpqT>,kI&meω-Lky HEAD>,HEAD>aδ-ffB*HvC*HvD*D*HvHfZ*HAhG*H",
   "vHfJfK*HfSSvLfMfN*GfNfYvP*HvRfS*HfSvT*HfS*HvT*HAhVfYfZ*HAhMiKeω.HAD,LpG TSHEG,SHAD,TSHEGaS(IGNe",
   "qUSVifCqD]( l ORNAMx?BkDU!l ORNAMxThVI(]MfSiGAhUBJOknaVOWELesNG<>,SIGNeA([Uaj[Oc|REVnSy [UcE)@E",
   "(B] FACj_ WID<eJOkn,NO(-BREAK.PACjN-JOknaSPAC|USaIPPn-MOU< FACjNAMxNYeCOMBk~eATTACH~ ψ OME?LOWn",
   " Tpm RqGE kDICATOR,MiKeBORZAYfC(HASHKA!POLNAYvURVy OMETaD(EM^TVxNY ZADnZHKfVOETOCHI|GO]ZDOeNIZK",
   "OepesF?RraS KRYZHEM pesF?RrhVYSOKOaK:CHKfRYZH!p sFTaUPNAYvLOMKfMmO POVYSHEepesF?RraS( K(HOKHLOM",
   " pesF?RraRYZHEMaTRqNOhNIZKOepesF?RraS KRYZHEM pesF?RrhO(BLACHKO,N,TSECHKvPO(D(CHASHIE!l ψ.T_K|V",
   "nTKvVYSHEepesF?RraS( K(HOKHLOM pesF?RraRYZHEMaTRqNO@](VNO,ZSEKvS(KOBfO_CHYA NOZHKfRyNE pesF?Rra",
   "TRqNO MmO POVYSH|T(IKHAYfOCHKfSATAepesF?RraS KRYZHEMhUDiKfVYSOKOepesF?RraS K(HOKHLOM pesF?RraRY",
   "ZHEMhZ:DnZHKfE(LO,VOK@Tpm RqGE>eM]CHNO,SVETLO,TR^VETLOhNEUMEeCH:SHKfELYUSTKvD(E(M^TVxNY KLYUCH,",
   "RBITSvOUBs ZAPYATAYfUDfVA V CHELNUaFITfGOLUBCHIKeBORZY,M]CHNY,SVETLY,T(IKHY,R^VETLYhK(HAMILO,LY",
   "UCH,OBYLfRY(UK!&KHYaZHaUFISMvMECHIKceKLYUCHE(NEPOSTOYqNY,POVODNY,VOYaPOVODNYhNEMKfO(BLAKO,SOKAc",
   "eK(LYUCHEVAYAeNEPOSTOYqNAYfSVETLAYvRYUKOVAYA.VETLAYvSVETLAYfTR^VETLAYA@P:(LKf]KLI?UKanEVODKA!NE",
   "POSTOYqNAYvO(DCHASHIjLKULIZMYhR(EVnSy CHELYUSTKfOGaS(KAMEYTSAeDVOECHELNAYAeKLYUCHEVAYfNEPOSTOYq",
   "NAYfP_STAYfSVETLAYvKLYUCHE(NEPOSTOYqNAYfVAYAeSVETLAYf&KHAYAhM]CHNAYfSVETLAYfT(IKHAYfR^VETLAYAhL",
   "OZHI&EceSeKRYZHEM,ZAPYATOYaZAKRYTOEhT:TYAceNEPOSTOYqNAYfSeDVUMYA ZAPYATYM[KRYZHEM!I ZAPYATOYa_G",
   "OM,ZAPYATOY!IeKRYZHEM,PODCHASHIEM@ZAKRYTAYA!S ZAPYATOY@OPITSAceS OCHKOM,l.O_CHYA NOZHKAhRELAeDV",
   "OECHELN:YA!KLYUCHEVAYvO(KRYZHEVAYfPOVODNAYA!KLYUCHEVAYA@G_M(NAYA!l.~s ZAPYATAYvO(KRYZHEVAYA!POV",
   "ODNAYvPOVODNAYA!leω ZAPYATAYfS~s ZAPYATAYA)@K(LYUCHE(NEPOSTOYqNAYfPOVODNAYvRY(UKOVAYAceG_M(NAYA",
   "!l.~s ZAPYATAYvO(KRYZHEVAYA!POVODNAYvPOVODNAYA!leω ZAPYATAYfS~s ZAPYATAYA)@POVODNAYfTRYASKAhZHE",
   "VAYAhM]CHNO&KHAYfNEPOSTOYqNAYfP(O(LUPOVODNAYfVODNAYv_STAYvT(IKHAYA PUTNAYfRYASO(GLASNAYfPOVODNA",
   "YfSTRELNAYA))@V]KHIYAeKLYUCHEVAYAeM]CHNAYfP_STAYfSVETLAYfTR^VETLAYvM]CHNAYfP_STAYfSVETLAYfTR^VE",
   "TLAYvZ:(NOZHEK,PYATAYvMEYTSAhPRIZNAK MODIFIneDIREC&p FLIP,KRYZH,sVEL-(2,3a_GhOMBIjW(J,N(BSP,JaS",
   "P))"]

end ScriptLint.Text
