/-!
# Names of characters, D to M

The names are written as trees: what several names start with is written once, before a
group of what follows it.  Small letters and marks are signs for what is often repeated.
A tree is given in lines, which may end anywhere.
-/

namespace ScriptLint.Text

def charNamesD : List String :=
  ["D:(GGnceKNIFjlesFT GUiD,Rr GUiD@sT=,N(Cn,GOaRK.(HADjUNGLASS^aSH(eSYMBOL,l sFT UPTURNayeLOW LkjO",
   "VnLkjTRIqGs-HEADy RrμuhTA LkK ^CAP|C(1,2,3,4,SaE:F PnSp,C(I(DUOUS TREjMmeEXPpxT=,SEPiATOR KEY=h",
   "REASE FpT.IZE=an,GREEeCELSIUS,FAHRxHEI?SIGNaLcETjIVnY TRUCK,TA EQUm TOaN&STRY= LreDOWN qD ζ!leC",
   "IRCLjTRIqGLjWAVEhUP qD ζ!leCIRCLjTRIqGLjWAVEhψeqDeBOTTOMesF?RraTOPesF?RraWAV|leCIRCLjTRIqGs@PiT",
   "MxT.TORjRELICT HOUSE BUILD~,S(CxD~ NODjn(ETeCAPITm δAY,BEjCHEjDEjE(F,L,M,NcGaR,ScHa<,WaGAY,H,JE",
   "jKAY,LpGeAcHaj[OcOhO([WaPEjSHORTeAcHaj[OcOhT(EjHE|VEjWU,YEjZ(EjHEEhSMmL δAY,BEjCHEjDEjE(F,L,M,N",
   "cGaR,ScHa<,WaGAY,H,JEjKAY,LpGeAcHaj[OcOhO([WaPEjSHORTeAcHaj[OcOhT(EjHE|VEjWU,YEjZ(EjHEE@T!ISLqD",
   "hKTOPeCOMPUTn,WkDOWhV(qAGiIeA(BBREVIA&pt,CUTE ACCxTaCiE?D(qDfdaZnOaOUBs DqDvG:P FILLn,]VE ACCxT",
   "aHEADST_KjJAk OM,δAcf[U,W,YaB*BfHvC:cND]efjOhHvD*D*D*HvHvHvjFfG*GfH*HvLOTTm.TOPaH*EAVY YvIcIaJ*",
   "HfJvK*H*HAhL*L*LAhMAcRWiI DDvN*GfN*NvYvOcjO|P*HvQfR*HfRvS*H*ORTefjOhSvT*HfT*HAhUcjUcEhV*ρ@Y*YvZ",
   "*HAhOM,S(IGNeA(NUSVifVAG]HvCqD]BkDUceAVAG]HfT(HREjWOaVI]MAhω CqD]BkDU VI]MfHIGH.PAC~ DO?kVnTy C",
   "qD]BkDU,NUKTfPUSHPIKfS(IDDHAM,PAC~ CqD]BkDUaVI(]MfSiGAhTR^SteqUDATTfUDATTAhVOWELteA*[U,W,YaCqD]",
   "ejLpG jOajIcIaOcjO|PRISH<AMAT] jSHORTejOaUcjUcEhVρ)@ICE CpT_LeFOUR,pjSTR~,T(HREjWO)@I:(n^IS,M(E",
   "Tnt,pDeOPnATOR,SHAPE l Aυ kSIDjTiGE?leBOTTOM HmF τ,sFT HmF τ,Rr HmF τ,TOP HmF τ)@E( FACE-(;,6aS",
   "EL LOCOMO&V|FFnxCE BETWEx,G(ITeErceCOMMfFULL.TOPhF(IVEceCOMMfFULL.TOPhOURceCOMMfFULL.TOP@NkEceC",
   "OMMfFULL.TOPhpEceCOMMfFULL.TOPhS(EVxceCOMMfFULL.TOPhIXceCOMMfFULL.TOP@T(HREEceCOMMfFULL.TOPhWOc",
   "eCOMMfFULL.TOP@ZnOceCOMMfFULL.TOP@]M FOReEi<cLY H(EAVx,UMqhGREATn Y(qG,kaH(EAVxLY Ei<,UMq Ei<as",
   "SSn Y(qG,k@MxSIp ORIGk,NGBATeCIRCsD.qS-SnIFeDdaZnOaNUMBn TxaNEGA&VE CIRCsDeDdhNUMBn Tx,SqS-SnIF",
   "eDdaZnOaNUMBn Tx@RECTeCURRxT=g TWO,HITaS:(BsD Ci,PPOkTyeBUT RELIEVy FACjFACEhCpTkUOUS UNDnLkE=,",
   "GUISy FAC|TTO>,V(^ AKURUeD(daZnOaOUBs DqDvxD OF TEXT>,GAP FILLn,kI&m RfδAcvB*HvC*HvD*D*HvHvjG*H",
   "vHfIcIaJfK*HvL*LvMfN*GfNfYvO,P*HvRfS*HfSvT*HfTvUcUaVfY*YvZvMyImeRfYvPREFIXy NASmt,SIGNeqUSVifCq",
   "D]BkDU,HmqTfNUKTvV(I]MfOWELteA*IajIcIaO,UcU)@I(D^,NG MASK,SIpeS(IGN,LASHa&M^hORCE=aYA LAMP,ZZYe",
   "FACjSYMBOLhLjNA ω HELIX,O( NOT LITTn=,CUMxT!lePICTURjTEXT!qD PICTURE@DO,^ NOTeCpTAk ASeMEMBn,NO",
   "RMm.UBG_UP!OR EQUmhDIVIDE!l REVnSy NEGA&p.LASHaFORCjPR(ECyE!OR EQUmaOV|SUCCEy!OR EQUmhG!FACj]eA",
   "BBREVIA&pt,δAcf[κvLfMfN*GfNfYvO,P*HvR*RvS*HfSvT*HfT*HAhUcUaVfYvSIGNeqUSVifNUKTfVI(]MfSiGAhVOWEL",
   "teA*[UajIcIaO,UcUaVOCmIC RcR)@L(Lit,PHkaMkO &seζ( BACK,-0(0-0(0,;,6a1-0(0,;,6a2-0(0,;,6a3-0(0,;",
   ",6a4-0(0,;,6a5-0(0,;,6a6-0(0,;,6@ψ( BACK,-0(0-0(0,;,6a1-0(0,;,6a2-0(0,;,6a3-0(0,;,6a4-0(0,;,6a5",
   "-0(0,;,6a6-0(0,;,6)@NGt,OR,T(e+jMkUS,OPnATOR,PLUSaTyeC(IRCLj_SSaFxCjLkE FACjOBELOS,Rr-POkT~ qGL",
   "jS(OLIDUS,QUi|TRqSPOSI&p>nhU(Bs(eACUTE ACCx?C(IRCsDeDdhNUMBn TxaOLp EQUm,URLY LOOPaD:GGn,OWN TA",
   "CKaEXCLAMA&p>,H(IGH-REVnSy-9 QUOTA&p>,YPHxakTE(GRm,RSEC&paL(EFT iC GREATn-<qθ?O(GICmeqD,ORaW( L",
   "kj-(9 QUOTA&p>,REVnSy-9 QUOTA&p>)@N^TyeGREATn-<q,sSS-<q!l UNDnBihOBLIQUE HYPHx,P(LUS,R(ECy^,IME",
   "!QUOTA&p>@QU^&p>,Rr iC sSS-<qθ?S(OLIDUS OPnATOR,QUiEekTnSEC&p,UNIpaT:CKy COMMf_KE NOTtaU(BSE?CC",
   "EyS,PnSE?SPxSIp>hU(NIp,P TACKaψeBiceωesFT TURNS&LjRr TURNS&sasFT TURNS&shLk|WAVY OVnLk|-(xDy MU",
   "L&MAP,LkEeEQUm TO OReGREATn-<q,sSS-<qaSLqTyeEQUm TO OReGREATn-<q,sSS-<qaGREATn-<q OR EQUm TO,sS",
   "S-<q OR EQUm TOhSTRUCKeCAPITmeC,GAMMfH,N,PcIaQ,R,ZaITmICeCAPITm D,SMmLeD,j[JhN-iY.UMMA&p,SMmLeG",
   "AMMfPI@DeFEMmEt,MmEt,SYMBOLhGHNUTaVE OF PEACjWN(ei_WHEAD,FISH TAIL,Rr DIAGpm ELLIPSIS,TACK!l CI",
   "RCs zh-POkT~eRy TRIqGLjSMmL Ry TRIqGLjTRIqGs lesFT HmF τ,Rr HmF τhWiD( FAC~eλ!lυaNOTCHy λ!lυhSe",
   "A(NCORfR_WceqD Rr pE ErH BLOCK,F_M Bi,sFTμ OF UPμu,TO Bi,leCORNn sFTμ,ω.T_KjEQUILATnmuHEAD,ζ.T_",
   "KjLiGE TRIqGsuHEAD,MyIUM TRIqGsuHEAD,NOTCHy TAIL,SMmLeEQUILATnmuHEAD,TRIqGsuHEADa&PesFTμ,Rrμ))@",
   "τei_W,CIRCsD WHITEuaCOMPR^Syu,D:SHyu,OUBsuaF~n-POSTu,H(iPOp l BiBesFT(eB^IDEeDOWNμ HiPOp l BiB ",
   "Rr,UPμ HiPOp l BiB RraF_M Bi,TO BiaμaRr(eF_M Bi,TO BiaμhEAVYei_W,COMPR^SyuhPAIRyuS,QUADRUPsu,_C",
   "KE?S(qS-SnIFu,QUiyuaT(RI(qGs(uHEAD,-HEADyei_WcesFTμ OF UPμ TRIqGs-HEADyu,TO Bi,leBOLD.HAF?ω ζ.T",
   "_KjHEAVY.HAF?LpG &PesFTμ,RrμaMyIUM.HAF?Ni_W.HAF?VnY HEAVY.HAFT@DASHyu,PAIRyuS,ZIGZAGuhPsuaWO( H",
   "EADyu,-HEADyu l TRIqGsuHEADShWHITEu!lk TRIqGsuHEADaZIGZAGu)@R:(CHMAt,FT~ POkT Rrμu,Gp!FACEh^S,I",
   "VE.LOWt,O(MyiY CAMEL,OL~ FACjP( OF BLOOD,sThUM l DRUMS&CKSaU(CK,MPL~,PLOYqeAFFIXeATTACHyeE λ,I ",
   "λ,sFT-TO-Rr.ECq?SECq?TA(IL,NGxT!λ@HIGHeACUTjCIRCLjDO?G]VjL(kjpG G]V|Tr ACUTjψ!SECqTaWAV|L(EFT ζ",
   ".ECq?OWeA(CUTjR_WaCIRCLjDO?G]VjL(kjpG G]V|Tr ACUTjψ!SECqTaWAVEhMIDeζ.ECq?ψ.ECqTaRr ζ.ECqTaω>,δA",
   "cOUaB,D!S,HaEcjUaF!NaG!R.aHcLaIc|JceM!SaN!SaS!lυalυcS kSIDE qD +E@KceM,R.aKaLcH,pGe[UhMceN!SaS,",
   "lυhNceM!SaS,lυaASmef[O,UhOcfOH,U,WaP!N,nNk A(M,NhR!S,H,OMqIqe[UhSceJ!SaK!RaM,N,P!RaS,T!Ralυ!zhH",
   "ORT [LOqeq,DH,E(jH,NaJ,O(N,WaUhTceR.,SaHaU!N,H,IaVcOCmIC MaW!R,fE[H,[OcWhXcWaY|PUNCTUA&p CHkOOK",
   " FULL.TOP,SIGN O l C_SS,<ICK sTTn.EsCTORhVD)"]

def charNamesE : List String :=
  ["E(-MAIL=,A(GLjRceOFeMAIZjRIC|l HEi~ AIDa<!G(LOBEeA(MnICAS,SIA-AUSTRmIvEU_PE-AFRICv_UND@ST.YRIAC",
   " C_SSaDITORIm CORpIS,G(G,YP&q HInOGLYPHeA(0(0(;cv6cfBa7,8,9a1(0,1,2,3,4cv5,6,7cv8,9a2(ba3(0,1,2",
   "cv3,4,5,πa4(0cv1,2cv3cv4,5cvπa5(ba6(ba70aA0(0(;,6,7cfBa8,9a1(ba2(ba3(0,1,2@B(00(;cvπaEGk.EGMxTa",
   "C0(0(1,2cfB,Ca3,4,5,πa1(0cv;,πa2(0,1,2,3,4hD0(0(;,6,7,8cv9a1(ba2(0,;,6,7cv8,9a3(0,1cv2,3,4cv5,π",
   "a4(0,;,6cv7,8cv9a5(0cfB,C,D,jF,G,H,Ia1,2cv3,4cv5,πa6(0,;,6,7cfB,C,D,jF,G,H@E(0(0(;,6,7,8cv9cAh1",
   "(0,;,6cv7cv8,9a2(0cv;,6,7,8cv9a3(0,1,2,3,4cv6,7,8hND.EGMxTaF0(0(1cv2,3,4,5,πa1(0,1,2,3cv4,5,πa2",
   "(0,1cv2,3,4,5,πa3(0,1cv2,3,4,5,6,7cv8cv9a4(0,;cv6cv7cv8,9a5(0,1cfB,Ca2,3hG0(0(;,6cv7cfBa8,9a1(0",
   ",1cv2,3,4,5,πa2(0cv;,6cv7,8,9a3(0,;,6cv7cv8,9a4(0,1,2,3cv4,5cvπa5(0,1,2,3,4hH(00(;,6cv7,8aORIZp",
   "Tm JOknaI(0(0(;cvπcAh1(0cv1cv2,3,4,5hNSnT ATeBOTTOMexD,STiTaTOPexD,STiT@K00(;,6,7,8aL00(1,2cv3,",
   "4,5,6cv7,8aM0(0(1cfBa2,3cv4,5,πa1(0cv1,2cfB,C,D,jF,G,Ha3,4,5cv6cv7cv8,9a2(0,1,2cv3,4cv5,6,7,8cv",
   "9a3(0,1cv2,3cfBa4,5,πa4(0cv1,2,3,4hN(0(0(;,πa1(0,;,6,7,8cfBa9a2(0,;cvπa3(0,1,2,3cv4cv5cv6,7cv8,",
   "9a4(0,1,2hL0(0(;cvπa1(0,;,6,7cv8,9a20aU0(0(;,πa1(0cv1cv2,3,4,5,6,7,8cv9a2(0,1,2cA)@O(0(0(1cv2,3",
   ",4,5cv6cfB,C,D,jFa7,8,9a1(0cfB,Ca;,πcAh2(0cv1,2,3,4cv5cvπcAh3(0cv1,2,3cv4,5,6cfB,C,Da7,8,9a4(ba",
   "5(0cfBa1hVnLAY MIDDsaP0(0(1cv2,3cv4,5,πa1(0,1hQ00(;,6,7aR0(0(1,2cv3cfBa4,5,πa1(0cv;,6cv7,8,9a2(",
   "bhS0(0(1,2cv3,4,5,6cv7,8,9a1(0,1,2,3,4cfBa5,6,7cv8,9a2(0,;,6cfBa7,8,9a3(0,;cvπa4(0,;,6hT0(0(1,2",
   ",3cv4,5,6,7cv8cv9cAh1(0,1cv2,3,4,5,6cv7,8,9a2(ba3(0,1,2cv3cv4,5,6hU0(0(;,6cfBa7,8,9a1(ba2(0,1,2",
   ",3cv4,5,πcAh3(0,1,2cv3,4,5,πa4(0,1,2hV(0(0(1cfB,C,D,jF,G,H,Ia2cv3,4,5,6,7cfBa8,9a1(0,1cfB,Ca2cf",
   "Ba3,4,5,πa2(0cfB,C,D,jF,G,H,[J,K,La1,2,3cv4,5,6,7,8cv9cAh3(0cv1cv2,3cv4,5,6,7cv8,9a40cAhn&Cm JO",
   "knaW0(0(1,2,3cv4,5,πcAh1(0cv1,2,3,4cv5,6,7cv8cv9a2(0,1,2,3,4cv5hX00(1,2,3,4cfBa5,6cv7,8cAhY00(1",
   "cv2,3,4,5,6,7,8aZ0(0(1,2cfB,C,Da3cfBa4cv5cvπa1(0,;cfB,C,D,jF,G,H,Ia6cfB,C,D,jF,G,H))@r(eP(ETmsD",
   " OUTLky τ FLORETTjOkTyeτ.Ti,PkWHEEL.Ti,REC&LkEi τ.TihSPOKy ASTnISK,TEiD_P-SPOKy P_PELLn ASTnISK",
   "aH NOT|JECT=,L(BASq δfBjC(jH|D(jH|EcIaFjG(jH:MMf|J|Hj[JjK(jH|L(jsaMjN*DjjJ|O,PjQjR(jR|S(jH|T(jH",
   "|U,VjXjY,Z(jHEhE(CTRIC(ei_W,Lr BULB,PLUG,TORCHam kTnSEC&paMxT OFceOPx~eDOWNμ,UPμaleDOT +jLpG ζ.",
   "T_KjOVnBi,TWO ζ.T_K^,UNDnBi,ψ Bi AT xD OF ζ.T_KE@PHq?VATORaF,YMAIC L(ETTneA(sPH,YkaBE<,DmE<,GIM",
   "EL,HEc<aKAPH,LAMyH,MEM,NUN,PjQOPH,R^H,S:(DHjMEKHaHkaT:W,E<aWAW,YODH,ZAYkaIGATURE ZAYk-YODHhM(eD",
   "ASH,QUAD,SPAC|OJIeCOMPpxTeBmD,CURLY HAIR,Ry HAIR,WHITE HAIRaMODIFIn FITZPATRICK TYPE-(1-2,3,4,5",
   ",6hP(HASIS=,TYeDOCUMx?N(^?OTE!PA(D,GE@PAGEcSaSET!lesFTu +jOVnBi,Rru +jSMmL CIRCs +E))@N(eDASH,Q",
   "UAD,SPAC|DeOFeGUiDy iEfLkjMyIUM,P_(OF,TECTy iEvSEsCTy iEfT(EX?RqSMISSIp!BLOCK@l sFTμu +|QcUIRYa",
   "Tn=,VELOPE!leDOWNμu +jLrN~@O(L,M,TaPfQU(m(eqD PimsL TO,TOeBY DEFkI&p,OReGREATn-<q,sSS-<q,PRECy^",
   ",SUCCEyS@SeCOLp,SIGNceA(BOVEesFTμu,PLUSt,Rrμu,&LDE OPnATORaND.LqTy PimsL!l &LDE +EhleBUMPY +jDO",
   "T z,kFkITY z,TWOυS +E qD TWOυS z@l ASTnISKhI(qGULi TO,VmxTeTO,l FOURυS +E@R:SE TO <EesF?RraISge",
   "pjTWOa_R-BiRyeτeCIRCLjDIAMpD,SQUi|WHITEeCIRCLjDIAMpD,SQUiE@S*CcAP|&MATE(D=,ShT(B,HIOPICeCO(Lp,M",
   "(Bk~eGEMkA&peqD VOWEL sNG<>,MiKaVOWEL sNG<>aMAhDdhFULL.TOP,NUMBneErY,F(IFTY,ORTYaHUNDRy,NkETY,S",
   "(EVxTY,IXTYaT(x!<OUSqDaHIRTY,WxTYhP(iAG]PH.EPiATOR,REFACE COLpaQU^&p>,S(E(C&p>,MICOLpaYLLABseB:",
   "cvB:cvEc|[O,UaEc|[OcvU,W*Ec|IhC:cvC:cvEc|H:cvEc|H:cvEc|[O,Ua[O,Ua[O,UaEc|H:cvEc|[OcvU,Wv[OcvU,W",
   "vD:cvD:cvEc|H:fEc|[O,Ua[OcvU,WvEc|[OcvU,WfZ:fEc|[O,UhF:cvEc|[O,U,W*Ec|IaYvG:cvEc|G:cvEc|[O,U,W:",
   "cvEc|Ih[LOTTmeAcvEc|[OcvU,WvOcvUc]GEeBW(EjIaFW(EjIaGW(Ec|IaHHWfKW(Ec|IaMW(EjIaPW(EjIaQW(Ec|I@W:",
   "cvEc|IaY:cvEc|[O,UhH:cvEc|H:cvEc|[O,U,W*Ec|IaY:cvEc|[O,Uh[OcvUaJ:cvEc|[OcvU,WvK:cvEc|[OcvU,W:cv",
   "Ec|IaX:cvEc|[O,U,W:cvEc|IhY:cvEc|[O,UhL:cvEc|[OcvU,WvM:cvEc|[OcvU,W*Ec|IaYvN:cvEc|[OcvU,WfY:cvE",
   "c|[OcvU,WAhP:cvEc|H:cfRYNGEmeAcvEc|[O,UhEc|[OcvU,Wv[OcvU,W*Ec|IhQ:cvEc|H:cvEc|[O,U,W:cvEc|Ih[Oc",
   "vU,W:cvEc|IaY:cvEc|[O,UhR:cvEc|[OcvU,WfYvS:cvEcBATBEITeBWfFWfMWfPWv|H:cvEc|[OcvU,Wv[OcvS:cvEc|[",
   "O,UaU,WfZ:cvEc|[O,U,WAhT:cvEc|H:cvEc|[OcvU,Wv[OcvS:cvEc|[O,U,Wv<:fEc|[O,UaU,WfZ:cvEc|[OcvUhV:cv",
   "Ec|[O,U,WvW:cvEc|[OcvUaX:cvEc|[OcvU,W:cvEc|IaY:cvEc|[O,UhY:cvEc|[OcvUaZ:cvEc|H:cvEc|[O,U,Wv[Ocv",
   "U,WfZ:cvEc|[O,U)@Tpm>eCHIRE?D(nETc-HIDETaIFATaHIDE?K(xA?URTaRIKRIK,SHORT RIKRIK,YIZETaWORDSPAC|",
   "XaU(Ln CpSTq?_(t,-CURRxCYt,PEqeCASTLjPOST OFFICE@VnGREx TREjX(C(^S,LAMA&peMiK,QU^&p>hPR^SIpsSS ",
   "FACjT(xDy iABIC-kDIC DdaZnOaR:TnR^TRIm mIx,EMELY HEAVYeFIVE.POKy ASTnISK,GREEK C_SS,S(m&RjIX.PO",
   "Ky ASTnISKaWHITEeCIRCLjSQUiE))@YEcGLASS^,S))"]

def charNamesF : List String :=
  ["F:(C(EeHOLD~ BACK TEiS,MASSAGjPmM,S:VOUR~ DELICIOUS FOOD,CREAM~ k FEia<_W~ A KISS,l(eCO(LD.WEA?",
   "WBOY HATaDIAGpm MOU<,F~n COVn~ CLOSy LIPS,HEAD-BqDAGjLOOK OF TRIUMPH,M(yICm MASK,pOCsaNO GOOD G",
   "^TURjO(K G^TURjNE EYEB_W ]ISy,PxeEY^ qD HqD OVn MOU<,MOU<ceqD COLD.WEA?VOMIT~)@P(iTY HORN qD Pi",
   "TY HA?EEK~ EYjsAD~ EY^a_LL~ EY^,STUCK-OUT TpGUE!qDeTrLY-CLOSy EY^,WkK~ EYEhT(EiS OF JOY,HnMOMET",
   "naUNEVx EY^ qD WAVY MOU<aOUT MOU<hSIMIst,TORYaIRY,L:FEL,L(x sAF,~ DIAGpmeC_SS~eNOR< EASTu,RIS~ ",
   "DIAGpmak WHITE CIRCs k τ.QUiE@MILY,RSI=,<n CHRISTMAS,XeICp,MACHkEhE:(RFUL FACj<naM(mEt,kkE ORDk",
   "m kDICATORaNCn,RR(IS WHEEL,YhF,I(ELD HOCKEY.&CK qD BmL,GUREeDASH,SPAC|L(EeCABkE?FOLDn,SEPiATORa",
   "MeF]M^,P_JECTORhNITE PiT kTEGRm,R(E!E(NGkjXT~UISHnaC]CKn,WORK(.PiKLn,ShSTePLACE Mym,QUiTn MOpce",
   "SYMBOL,l FACEhSTRpG ISOLATEhS(H!CAKE l.WIRL D^IGN,EYj~ POs qD FISHaTy HqDtaVEυeMiK,PUNCTUA&phL:",
   "(G k HOLjM~O,T(.HOjBREAD,N^ShE(UR-DE-LIS,Xy BICEPSaO(PPY DISK,Rm HEi?Wn!P(LAY~ CiDS,UNCTUA&p>@U",
   "SHy FACjYc~eDISC,xVELOPjSAUCn@O(GcGYaLDn,NDUjOTcPRkTSaR( mL,C^,K( qD KNIFE!l PLAT|y PiAG]PHOS,~",
   "aM FEy,TUNE COOKI|U(NTAk,R(eBmLOp-SPOKy ASTnISK,C(LUB-SPOKy ASTnISK,ORNnuS CIRCL~ q&CLOCKWIS|DO",
   "TeMiK,PUNCTUA&pasAF CLOVn,POkTy τ.Ti,TEiD_P-SPOKy ASTnISKa-Pn-EM.PACj< _OThX FAC|R:(C&peNUMnATO",
   "R pjSLASHaME leq X,PICTURj&sShE(EZ~ FACjNCH FR(qCt,I^hIy.HRIMP,O(G FACjNT-(FAC~ BABY CHICK,&LTy",
   ".HADOWy WHITE RrμuaWNc~ FACE l OPx MOU<@ScIaU(EL PUMP,LL(eBLOCK,MOpeSYMBOL,l FAC|OUTn JOk,STOPa",
   "WID<eA(MPnSqD,POST_PHjSTnISKaB_Kx Bi,C(xTt,IRCUMFsX ACCx?O(Lp,MM*nCIm AT@D(daZnOaOLLitaE(QUmSt,",
   "XCLAMA&p>aFULL.TOP,GR:VE ACCx?EATn-<qtaHYPHx-MkUS,L:TkeCAPITm sTTn$aSMmL sTTn$hE(FTeCURLYθ?Pix<",
   "^IS,SQUiEθ?WHITE Pix<^ISaSS-<qtaOW Lk|MACRp,N(OTt,UMBntaP(nCxTt,LUSt,OUNDtaQU(^&p>,OTA&p>aR(EVn",
   "SE.OLIDUS,reCURLYθ?Pix<^IS,SQUiEθ?WHITE Pix<^IShS(EMICOLp,OLIDUSa&LDjψ LkjWpt,YxthN(C&p APPLICA",
   "&p,nm URNaS|VS(1,2,3,4))"]

def charNamesG : List String :=
  ["G:(ME DIjRLICaE(i!l( HqDsS,OUT HUBhM(.TpjkIaNIjO(METRIC( P_POR&p,mLY EQU(m TO,IVmxT TOhRGIqeCAP",
   "ITm δA(x,NaBq,C(q,H(i,kaILaDp,x,G(q,HqaH:(jRajIjO|k,J(Hq,ILaK(q,HiaLAS,Mq,Ni,p,P(i,HiaQi,]jS(q,",
   "HkaTA(N,RaUN,Vk,WjXq,YN,Z(x,HihδA(x,k,NaBq,C(q,H(i,kaILaDp,E(LIF[NaF[G(q,HqaH:(jRcDthjIjO|k,J(H",
   "q,ILaK(q,HiaLA(BImt,SaMq,Ni,p,P(i,HiaQi,]jS(q,HkaT:(N,RaURNy GqaUN,Vk,WjXq,YN,Z(x,HihMTAVRULI C",
   "APITm δA(x,k,NaBq,C(q,H(i,kaILaDp,E(LIF[NaF[G(q,HqaH:(jRcDthjIjO|k,J(Hq,ILaK(q,HiaLA(BImt,SaMq,",
   "Ni,p,P(i,HiaQi,]jS(q,HkaT:(N,RaURNy GqaUN,Vk,WjXq,YN,Z(x,HihPiAG]PH.EPiATOR,SMmL δA(x,NaBq,C(q,",
   "H(i,kaILaDp,x,G(q,HqaH:(jRajIjO|k,J(Hq,ILaK(q,HiaLAS,Mq,Ni,p,P(i,HiaQi,]jS(q,HkaTA(N,RaUN,Vk,Wj",
   "Xq,YN,Z(x,Hi)@RMq PxNYt,TA>aHOS?I(MEL=,R:FFE FACjLcS=@L:(GOLI&CeCAPITm δAZU,B(IG YUS,UKYaC:UDAT",
   "E CHRIV[HRIVIaD(JnV[OB_,ZELOaF(ITfRITUaGLAGOL[HnU,IcNI&m IZHjOTATyeBIG YUS,SMmL YUSaZH(jITSAhKA",
   "KO,L:TkATE MYSLITjJUDIJ|MYSLITjNASH[O(NU,TUaP(jOKOJIaRITS[S(H*TAcPIChLOVO,MmL YUS!l TAILaPIDnY ",
   "HvT(_KUTAS& fS[VRIDOaUKU,VyjY:&,E(R([UaSTUaO,UaZ(EMLJfHIVETEhSMmL δAZU,B(IG YUS,UKYaC:UDATE CHR",
   "IV[HRIVIaD(JnV[OB_,ZELOaF(ITfRITUaGLAGOL[HnU,IcNI&m IZHjOTATyeBIG YUS,SMmL YUSaZH(jITSAhKAKO,L:",
   "TkATE MYSLITjJUDIJ|MYSLITjNASH[O(NU,TUaP(jOKOJIaRITS[S(H*TAcPIChLOVO,MmL YUS!l TAILaPIDnY HvT(_",
   "KUTAS& fS[VRIDOaUKU,VyjY:&,E(R([UaSTUaO,UaZ(EMLJfHIVETE@SS OF MILKaEICH.TiK,O(BE l MnIDIqS,V^,W",
   "~.TihO:(L NE?TaGGsS,LFn,RILLf<IC δA(HSfIHVUSaBAIRKq,DAGS,EIS,FAIHU,GIBfH:GL,WAIRaI(GGWS,UJvJn,K",
   "USMfLAGUS,MqNfN:U<S,kE( HUNDRy,TYhO<m,PAIR<RfQAIR<Rf]IDfSAUIL,T(EIWS,HIU<aURUS,WkJAhR:(DUA&p CA",
   "P,N<AeAU sNG<>,δAcf[UaB*HvC*HvD*D*HvHvEjG*HvHfIcIaJ*HvK*HvL*LvMfN*GfNfYvOO,P*HvRfS*HfSvT*HfT*HA",
   "hUcUaV*yICeqUSVifω qUSVivρ@YvOM,SIGNeA(NUSVifVAG]HvC(qD]BkDU,OMBk~ qUSViA +|NUKTfPLUTfVI(]MfSiG",
   "AhVOWELteA*[UaEjIcIaOO,UcUaVρ)@P^,VE ACCxTaE:Tn-<qeA(BOVEeω-LkE EQUm +E sSS-<q,sSS-<q +E ω-LkE ",
   "EQUm,Rrμu,S(IMILie+E sSS-<q,OR EQUmaLqTy EQUm +E sSS-<q +E.LqTy EQUmhNDeNOT APP_XIMATjS~s-LkE N",
   "OT EQUm TOhB(^IDE sSS-<q,UT NOT EQU(m TO,IVmxT TOhCLOSy BY CURVE!+E.LqTy EQUmaEQUm TO OR sSS-<q",
   ",O(ReAPP_XIMATjEQU(m TO,IVmxT TOasSS-<q,SLqTy EQUm TO!lυe+E!sFTakSIDE@Vn( EQUm TO,LAPP~ sSS-<qh",
   "SIGN,leCIRCs kSIDjDO?QU^&p> +EhE(KeA(C_PHpICeAT&CeFI(FTYceSTATnS,T(mxTS,HOUSqD!STATnS)@VEceHUND",
   "RyceSTATnS,TmxTShSTATnS,T(mxTS,HOUSqD!TmxTS))@pEeD]CHMfH(mF,UNDRyeSTATnS,TmxTShQUiTn,<OUSqDeSTA",
   "TnS,TmxTShTxeMNAS,STATnS,T(mxTS,HOUSqD.TATnS@C(iYS&q FIVE HUNDRy,YRxAIC TWO D]CHMASaDELPHIC FIV",
   "E MNAS,EPIDAUREqeFIVE HUNDRy,TWO!D]CHMAShHn:EUM pE Ps<Rp,MIpIqeFIFTY,pjTxhM^SxIq Tx,NAXIq FIVE ",
   "HUNDRy,ST]&q FIFTY MNAS,T(H^PIqeFI(FTY,VEεhpEcεhT(x,H(IRTY,REE HUNDRyaWOh_EZxIqeFI(FTY!mTnNATEg",
   "aVE!HUNDRyhTx!mTnNATEg)@NO TEsIfR(OU]t,TABEthBETA=,CAPITmeDOTTy LUNATE.IGMA=,KAI=,L(ETTneA(LPHA",
   "!leDASIA!qDeOXIA!qD P_SνaP(nISPOMxI!qD P_Sνa_SνaViIA!qD P_Sν@MACRp,OXIfP(_SGEG]MMx[SILI!qDeOXIA",
   "!qD P_SνaP(nISPOMxI!qD P_Sνa_SνaViIA!qD P_Sν)@TpOS,V(iIf]CHY@RCHAIC.AMPIaBETfCH[DELTfE(PSILp!le",
   "DASIA!qDeOXIfViIAhOXIfPSILI!qDeOXIfViIAhTpOS,ViIAhTA!leDASIA!qDeOXIA!qD P_SνaP(nISPOMxI!qD P_Sν",
   "a_SνaViIA!qD P_Sν@OXIfP(_SGEG]MMx[SILI!qDeOXIA!qD P_SνaP(nISPOMxI!qD P_Sνa_SνaViIA!qD P_Sν)@TpO",
   "S,ViIA@GAMMfHETfIOTA!leD:SIA!qDeOXIfPnISPOMx[ViIAhImY&KvMACRp,OXIfPSILI!qDeOXIfPnISPOMx[ViIAhTp",
   "OS,V(iIf]CHY@KAPPfLAMDfMU,NU,OM(EGA!leDASIA!qDeOXIA!qD P_SνaP(nISPOMxI!qD P_Sνa_SνaViIA!qD P_Sν",
   "@OXIfP(_SGEG]MMx[SILI!qDeOXIA!qD P_SνaP(nISPOMxI!qD P_Sνa_SνaViIA!qD P_Sν)@TpOS,ViIAhICRp!leDAS",
   "IA!qDeOXIfViIAhOXIfPSILI!qDeOXIfViIAhTpOS,ViIA@P:MPHYLIq DIGAMMfH[[SIaRHO!l DASIvS(q,HO,IGMvT:U",
   ",HETvUPSILp!leD:SIA!qDeOXIfPnISPOMx[ViIAhImY&KvMACRp,OXIfTpOS,V(iIf]CHY@X[YO?ZETvUNATE.IGMA=aRE",
   "VnSyeDOTTy LUNATE.IGMA=,LUNATE.IGMA=a<ETA=aD:SIA!qDeOXIfPnISPOMx[ViIAhImY&KAeqDeOXIfPnISPOMx[Vi",
   "IvTpOSa]CHMAtaF(IVE OBOLSt,OUR OBOLStaG]MMAt,k(DIC&pt,STRUMxTm NOTA&p=-(1c1,2,3,4,7,8,9a2c3,4,5",
   ",6,7,9a3(0,2,πa4c0,2,3,5,7,8,9a5c0,1,2,3,4a7,8hK:(I=,PPA=aORpIS,YA<OS BASEtaL(ETTneiCHAIC KOPPf",
   "DIGAMMfKOPPfS:MP[MmL CAPITmeGAMMfLAMDfOMEGfP([SIaRHOa&GMvYOTaIT]t,OWn NUMnmt,UNATEeEPSILp=,SIGM",
   "A=hM(ETRET^t,USICm sIMMvNUMnmt,O(BOLt,NEeHmFt!mTnNATEgaQUiTntaUNKIAt,XIvP(nISPOMx[HI=,I=,_SGEG]",
   "MMx[SILI!qDeOXIfPnISPOMx[ViIA@QU^&p>,R(EVnSy LUNATE EPSILp=,HOeSYMBOL,l.T_KE=hS(kUSOIDt,MmLeDOT",
   "Ty LUNATE.IGMA=,δA(LPHA!leDASIA!qDeOXIA!qD YPOνaPnISPOMxI!qD YPOνaViIA!qD YPOνaYPOνhMACRp,OXIA!",
   "qD YPOνaP(nISPOMxI!qD YPOνaSILI!qDeOXIA!qD YPOνaPnISPOMxI!qD YPOνaViIA!qD YPOνaYPOν@TpOS,V(iIA!",
   "qD YPOνa]CHYaYPOνhRCHAICeKOPPfSAMPIhBETfCH[D(ELTfIGAMMvE(PSILp!leDASIA!qDeOXIfViIAhOXIfPSILI!qD",
   "eOXIfViIAhTpOS,ViIAhTA!leDASIA!qDeOXIA!qD YPOνaPnISPOMxI!qD YPOνaViIA!qD YPOνaYPOνhOXIA!qD YPOν",
   "aP(nISPOMxI!qD YPOνaSILI!qDeOXIA!qD YPOνaPnISPOMxI!qD YPOνaViIA!qD YPOνaYPOν@TpOS,ViIA!qD YPOνa",
   "YPOν@Fkm.IGMfGAMMfHETfIOTA!leD:SIA!qDeOXIfPnISPOMx[ViIAhImY&KA!qDeOXIfPnISPOMx[TpOS,ViIA@MACRp,",
   "OXIfP(nISPOMx[SILI!qDeOXIfPnISPOMx[ViIA@TpOS,V(iIf]CHY@K:PPfOPPvLAMDfMU,NU,OM(EGA!leDASIA!qDeOX",
   "IA!qD YPOνaPnISPOMxI!qD YPOνaViIA!qD YPOνaYPOνhOXIA!qD YPOνaP(nISPOMxI!qD YPOνaSILI!qDeOXIA!qD ",
   "YPOνaPnISPOMxI!qD YPOνaViIA!qD YPOνaYPOν@TpOS,ViIA!qD YPOνaYPOνhICRp!leDASIA!qDeOXIfViIAhOXIfPS",
   "ILI!qDeOXIfViIAhTpOS,ViIA@P:MPHYLIq DIGAMMfH[[SIaRHO!leDASIfPSILIhS:(MP[NaHO,IGMf&GMvT:U,HETvUP",
   "SILp!leD:SIA!qDeOXIfPnISPOMx[ViIAhImY&KA!qDeOXIfPnISPOMx[TpOS,ViIA@MACRp,OXIfP(nISPOMx[SILI!qDe",
   "OXIfPnISPOMx[ViIA@TpOS,V(iIf]CHY@X[ZETvREVnSyeDOTTy LUNATE.IGMA=,LUNATE.IGMA=hUBSCRIPT.MmL δBET",
   "fCH[GAMMfPH[RHOaYMBOL TAU RHOaT(mxTt,H(ETA=,REEeOBOLSt,QUiTnSthpOS,RYBLIp BASEt,WOeOBOLSt,<IRDS",
   "thUPSILp leACUTE qD λ=,DIAn^IS qD λ=,λ=aV(iIfOCm NOTA&p=-(1cba2c0,1,2,3,4a3,4,5c0,1,2,3,4aπhX^T",
   "^t,Y(Eit,POνaZnOtaNeAPPLjBOOK,HEi?SmAD@I(MAC~ FACjNN~eCAT FACE l.MIL~ EY^,FACE!lepE LiGE qD pE.",
   "MmL EYjS(MIL~ EY^,Ti EY^))@O(UPeMiK,SEPiATORaW~ HEiThS,U(i(qIt,DSMqaI(DE DOG,TiaJiA&eABBREVIA&p",
   "t,DdaZnOaδAcf[κvL*LvMfN*GfNfYvO,P*HvRfS*HfSvT*HfT*HAhUcUaV*ρ@YfZHvOM,RUPEEt,SIGNeA(NUSVifVAG]Hv",
   "C(qD]BkDU,IRCs NUKTA +|MADDAH,NUKTfS(HADDfUKUNaT(HREE-DOT NUKTA +jWO-CIRCs NUKTA +|VI(]MfSiGAhV",
   "OWELeCqD]ejOaSIGNeA*[UaCqD]ejOajIcIaO,UcUaVρ))@NJmA GpDIeDdaZnOaδAcf[UaB*HvC*HvD*D*HvHvEjG*HvHf",
   "IcIaJ*HvK*HvL*LvMfN*GvOO,P*HvRfSfT*HfT*HAhUcUaVfYvOM,SIGNeqUSVifVISiGvV(I]MfOWELteA*[UaEjIcIaOO",
   ",UcU)@RMUKHIeA(BBREVIA&pt,DDAKaDdaZnOaEK pKi,IR[δAcf[UaB*HvC*HvD*D*HvHvEjFfG*H*HAhHfIcIaJ*HvK*H",
   "*HAhL*LvMfN*GfNfYvOO,P*HvR*RvS*HvT*HfT*HAhUcUaVfYfZvSIGNeADAK BkD[BkD[NUKTfUDAA?VI(]MfSiGvYAKAS",
   "Ha&PP[URfVOWELteA*[UaEjIcIaOO,UcU)))))"]

def charNamesH : List String :=
  ["H:(D^,IR(.PACjCUTaLFWID<eτ.QUijDOWNμu,FORMS Lr ψ,HqGULeFILLn,δAc|C(HIEUCH,IEUCaEcO,UaHIEUH,IcEU",
   "NGaK(HIEUKH,IYEOKc-SIOShMIEUM,NIEUNc-(CIEUC,HIEUHhOc|P(HIEUPH,IEUPc-SIOShRIEULc-(HIEUH,KIYEOK,M",
   "IEUM,P(HIEUPH,IEUPaSIOS,<IEU<hS(IOS,SqG(CIEUC,KIYEOK,PIEUP,SIOS,&KEUThT(HIEU<,IKEUTaU,W:c|EcOaI",
   "aY:c|EcOa[O,U@IDEOG]PHICeCOMMfFULL.TOPaKATAKqA(eδfjH*j[O,Ua[K*j[O,UaM*j[O,UaNcfj[O,UaO,R*j[O,Ua",
   "S*j[MmLefj[O,TU,U,Y*O,UhO,UaT*j[O,UaU,W*OaY*O,UhξDO?SEMI-VOICy.OUND>,VOICy.OUND>a-HI]GqA P_LpGy",
   ".OUND>asFT( CORNnθ?μuaRr( CORNnθ?μuaUPμu,WHITE CIRCsaM(BURGn,Mn!qDePICK,SICKLjWRxCHhS*Tn FACEhN",
   "(D( l kDEXeqD ξF~nS C_SSy,F~n qD <UMB C_SSyaBA(G,LLaSHAK|G(ULeCHOSEpGeC(EpGCHIEUM(C(HIEUCH,IEUC",
   "aS(IOS,SqG(CIEUC,SIOS@HI(EUCHc-(HIEUH,KHIEUKHhTUEUM(C(HIEUCH,IEUCaS(IOS,SqG(CIEUC,SIOS)@IEUCc-I",
   "EUNGhFILLn,HIEUHc-SIOSaIEUNGc-(C(HIEUCH,IEUCaHIEUH,KIYEOK,MIEUM,P(qSIOS,HIEUPH,IEUPaRIEUL,SIOS,",
   "T(HIEU<,IKEUT@K:PYEOUN(MIEUM,P(HIEUPH,IEUPaRIEUL,SSqGPIEUPaHIEUKH,IYEOKc-&KEUThMIEUMc-(KIYEOK,P",
   "IEUP,SIOS,&KEUThNIEUNc-(CIEUC,HIEUH,KIYEOK,PIEUP,SIOS,&KEUThP(qSIOS,HIEUPHc-(HIEUH,PIEUPhIEUPc-",
   "(C(HIEUCH,IEUCaHIEUH,K(HIEUKH,IYEOKaNIEUN,PHIEUPH,S(IOSc-(CIEUC,KIYEOK,PIEUP,T(HIEU<,IKEUT@SqGS",
   "IOSaT(HIEU<,IKEUT)@RIEULc-(CIEUC,HIEUH,K:PYEOUNPIEUP,HIEUKH,IYEOKaMIEUM,NIEUN,PIEUP,S(IOS,SqG(K",
   "IYEOK,PIEUP,&KEUTh&KEUThS(IOSc-(C(HIEUCH,IEUCaHIEUH,IEUNG,K(HIEUKH,IYEOKaMIEUM,NIEUN,P(HIEUPH,I",
   "EUPc-KIYEOKhRIEUL,SSqGSIOS,T(HIEU<,IKEUT@SqG(CIEUCc-HIEUHaHIEUH,IEUNG,KIYEOK,NIEUN,PIEUP,RIEUL,",
   "SIOSc-PIEUPaT(HIEU<,IKEUTaYEORkHIEUHhT(HIEU<,IKEUTc-(CIEUC,KIYEOK,MIEUM,PIEUP,RIEUL,SIOS@YE(ORk",
   "HIEUH,SIEUNGhωυ TpE>,FILLn,J(pGSEpGeC(HIEUCH,IEUCc-(PIEUP,SSqGPIEUP@HIEUHc-(MIEUM,NIEUN,PIEUP,R",
   "IEULhIEUNGc-(K(HIEUKH,IYEOKaSSqGKIYEOKhK:PYEOUN(MIEUM,P(HIEUPH,IEUPaRIEULaHIEUKH,IYEOKc-(CHIEUC",
   "H,HIEUH,KHIEUKH,NIEUN,PIEUP,RIEUL,SIOSc-KIYEOK)@MIEUMc-(C(HIEUCH,IEUCaHIEUH,KIYEOK,NIEUN,P(qSIO",
   "S,IEUPc-SIOShRIEUL,S(IOS,SqG(NIEUN,SIOS)@NIEUNc-(C(HIEUCH,IEUCaHIEUH,KIYEOK,PqSIOS,RIEUL,SIOS,T",
   "(HIEU<,IKEUT@P(qSIOSc-(KAPYEOUNPIEUP,PIEUPhHIEUPHc-(PIEUP,SIOS,<IEU<hIEUPc-(C(HIEUCH,IEUCaHIEUH",
   ",MIEUM,PHIEUPH,RIEULc-PHIEUPHaSIOSc-&KEUTa&KEUT@RIEULc-(HIEUH,K:PYEOUNPIEUP,HIEUKH,IYEOKc-(HIEU",
   "H,SIOS@MIEUMc-(HIEUH,KIYEOK,SIOShNIEUN,P(qSIOS,HIEUPH,IEUPc-(HIEUH,PHIEUPH,SIOS,&KEUT@S(IOS,SqG",
   "(KIYEOK,SIOShT(HIEU<,IKEUTc-HIEUHhYE(ORkHIEUHc-HIEUHaSIEUNG@S(IOSc-(C(HIEUCH,IEUCaHIEUH,K:PYEOU",
   "NPIEUP,IYEOKaMIEUM,P(qSIOS,IEUPaRIEUL,T(HIEU<,IKEUT@SqG(CIEUC,IEUNG,KIYEOK,MIEUM,NIEUN,PIEUP,RI",
   "EULc-KHIEUKHaSIOSc-(KIYEOK,&KEUTh&KEUTc-PIEUPaY^IEUNGhT(HIEU<,IKEUTc-(C(HIEUCH,IEUCaKIYEOK,PIEU",
   "P,RIEUL,SIOSc-KIYEOKa<IEU<@YE(ORkHIEUH,SIEUNGc-(HIEUH,K(HIEUKH,IYEOKaMIEUM,PqSIOS,S(IOS,SqGKIYE",
   "OK))@UNGSEpGeAc-(EU,O,Uaj]EAc-*EcOa[U@EcOc-(EU,O,UhUc-*EcO,UaO,U@FILLn,Ic-:c]EvEU,[Oc-IaU,Y:c-O",
   ",|EcOaO,U@Oc-(EcOaOc-IaU,Y:c|EcO@|SSqGiAEfUc-:c|EO-EU,I-[U,YEcO@W:c|EcOaIaY:c-(O,U,YOa|EcOc-(O,",
   "U,YA@Ic-UaOc-:c|EO,[O,Y:c|EO@Uc-:c|EcOa[O,U,YEcO)))@δAcj]EAcEhC(HIEUCH,IEUCaEcO,UaHIEUH,IcEUNGa",
   "K:PYEOUN(MIEUM,P(HIEUPH,IEUPaSSqGPIEUPaHIEUKH,IYEOKc-SIOShMIEUMc-(P(qSIOS,IEUPaSIOShNIEUNc-(CIE",
   "UC,HIEUH,PqSIOS,SIOS,&KEUThOc|P(qSIOS,HIEUPH,IEUPc-(CIEUC,KIYEOK,SIOSc-(KIYEOK,&KEUThT(HIEU<,IK",
   "EUT)@RIEULc-(HIEUH,KIYEOKc-SIOSaMIEUM,P(qSIOS,HIEUPH,IEUPc-SIOShSIOS,T(HIEU<,IKEUTaYEORkHIEUHhS",
   "(IOSc-(CIEUC,KIYEOK,NIEUN,PIEUP,&KEUThSqG(CIEUC,HIEUH,IEUNG,KIYEOK,NIEUN,PIEUP,SIOS,&KEUThT(HIE",
   "U<,IKEUTaU,W:c|EcOaIaY:c|EcOcRkHIEUHaSIEUNGc-(PqSIOS,SIOS@[Oc-([YAcE@Uc-([YEcO))@S~sυ TpE>aZHOU",
   " NUMnmeEr,F(IVjOURaNkjpjS(EVx,IXaT(x,H(IRTY,RE|W(xTY,O)@IFI _H~YAeDdaZnOaδfBfCfD*DvFfGfHfJfK*Hf",
   "kNAeWfYAhLfMfN*GfYvPfR*RvS*HvT*TvVfWfYfZvMiKeNA KHpNfSAKkaSIGNeHiBAHAY,TA(HmfNfSSIhVOWELefj[O,U",
   "hUNOOeδfBfDfGfHf[KfLfMfN*GvPfRfSfTfU,WfYvSIGN PAMUDPOD,VOWELte[U@PPY PnSp ]IS~ pE HqD,RD DISK,T",
   "(CH~ CHICK,RqeδA(sPH,YNaBE<,DmE<-R^H,GIMEL,HEc<aKAPH,LAMyH,MEM,NUN,PjQOPH,S:(DHjMEKHaHkaT:W,E<a",
   "WAW,YODH,ZAYNaNUMBneFIVjpE!HUNDRyaT(x,WxTY))@E:(D(PHpjSTpE!G]VEYiD=hR(-NO-EVIL MpKEY,TeDECO]&p,",
   "HqDS,lei_W,RIBBp,&P p <E sFT@VYeA(MPnSqD ORNAMx?R_W.HAFT WID<epEceHmF,<IRDhTWO <IRDSaSTnISKaB(m",
   "LOT X,LACK(eCURVyeDOWNμ qD Rrμu,UPμ qD RrμuaHEiTa-FEA<nyeNOR< EASTu,Rrμu,SOU< EASTu@C(HE(CK>,VR",
   "p.NOWFLAK|IRCs!leCIRCs kSIDjST_KE qD TWOυS +|D.m&R|pCAVE-POkTy τ RrμuaD:SHy TRIqGs-HEADy Rrμu,I",
   "VISIpt,O(LLit,UBseCOMMA QUOTA&p> ORNAMx?TURNy COMMA QUOTA&p> ORNAMxTaWNμu leEQUILATnmuHEAD,LiGE",
   " EQUILATnmuHEAD@E(rePOkTyeτ.Ti,PkWHEEL.Ti,REC&LkEi τ.TiaSPOKy ASTnISK,TEiD_P-SPOKy P_PELLn ASTn",
   "ISKaQUmSt,XCLAMA&p>eORNAMx?SYMBOLhF(IVEePOkTy τ.Ti,SPOKy ASTnISKaOUR BmLOp-SPOKy ASTnISKaGREEK ",
   "C_SS,H(EiT EXCLAMA&p> ORNAMx?ORIZpTm FILLakTn_BqG ORNAMx?L:(RGE CIRCLjTk C_SSaEFT(-POkT~ qGseB]",
   "CKET ORNAMx?QUOTA&p> ORNAMxTaμu leEQUILATnmuHEAD,LiGE EQUILATnmuHEADhIGATURE OPx ET ORNAMx?OW(e",
   "ω COMMA QUOTA&p> ORNAMx?S~s COMMA QUOTA&p> ORNAMxTan Rr-SHADOWy WHITE RrμuhM(kUSt,UL&PLICA&p Xa",
   "NOR<eEASTei_W,POkT~eBUD,VkE sAFhW^T POkT~eBUD,VkE sAFhO(Px CxTRE C_SS,UTLky τ.Ti,Vm l OVm kSID|",
   "PLUSt,R(r(-POkT~ qGseB]CKET ORNAMx?QUOTA&p> ORNAMxTaμu!leEQUILATnmuHEAD,LiGE EQUILATnmuHEAD@OUN",
   "D-&PPy RrμuaS:(L&RjNS-SnIF kTn_BqG ORNAMxTaCRIPT LIGATURE ET ORNAMx?I(NGseCOMMA QUOTA&p> ORNAMx",
   "?TURNy COMMA QUOTA&p> ORNAMxTaXePOkTy τ.Ti,SPOKy ASTnISKhOU<eEASTei_W,POkT~eBUD,VkE sAFhW^T POk",
   "T~eBUD,VkE sAFhPiKsaT(EiD_P-S(HqKy Rrμu,POKyeASTnISK,PkWHEEL ASTnISKhRIqGs-HEADy Rrμu,WELVE POk",
   "Tyeτ.Ti,PkWHEEL.TihUP(Pn Rr-SHADOWy WHITE Rrμu,μu leEQUILATnmuHEAD,LiGE EQUILATnmuHEADhψ Bi,W(y",
   "GE-TAIsD Rrμu,HITEeCIRCLjDOWN-POkT~ TRIqGLjSQUi|IDE-HEADy Rrμu@BREWeACCxTeATNAH HAFUKH,D(iGfEHI",
   "aETNAHTfGn(^H!MUQDAMaSHAYIMaILUY,M:HAPAKH,nKHA!KEFULvUNAHaOLjPA(SHTfZnaQA(DMfRNEY PivREVIfS(EGO",
   "L,HmSHEsTaT(E(LISHAeGyOLfQETqvVIRaIPEHvYE(]H Bx YOMO,&VaZ:(QEFeGADOL,QATqaRQvkORhL(ETTneA(L(EF!",
   "leMAPIQ,PATAH,QAMATShTnNA&VEeAYk,PLUSthYkaBET!leDAG^H,]FEhDmET!l DAG^HaFkmeKAF!l DAG^HaMEM,NUN,",
   "PE!l DAG^HaTSADIaGIMEL!l DAG^HaHE!l MAPIQ,TaKAF!leDAG^H,]FEhLAMy!l DAG^HaMEM!l DAG^HaNUN!l DAG^",
   "HaPE!leDAG^H,]FEhQOF!l DAG^HaR^H!l DAG^HaS:MEKH!l DAG^HaHk!leDAG^H!qD.(Hk DO?kυhS(Hk DO?kυ)@T:V",
   "!l DAG^HaET!l DAG^HaSADI!l DAG^HhVAV!leDAG^H,HOLAMhWIDEemEF,DmE?Fkm MEM,HjKAF,LAMy,R^H,TAVaYOD!",
   "leDAG^H,HIRIQhZAYk!l DAG^HhIGATUREemEF LAMy,YIDDISHeωeVAV,YODaVAV YOD,YOD YOD PATAH@MiKeLOWn DO",
   "?MASO] CIRCLjUPPnυaP(OkTeDAG^H OR MAPIQ,H:TAFePATAH,QAMATS,SEGOLaIRIQ,OLAM!HASn FOR VAVhJUDEO-S",
   "PqISH ViIKfMETEG,PATAH,Q:MATS!QATqaUBUTSa]FjS(EGOL,H(EVfkυakυaTSn|UNCTUA&peGn(^H,SHAYIMaMAQAF,N",
   "UN HAFUKHfPASEQ,SOF PASUQhYOD TRIqGsaDGEHOG,L(ICOPTn,LSCHREIBn PAUSE=,M(=,ET l WHITE C_SShNTAIG",
   "qA δA-(1,2,3,WOaE-(;,6aH:-(1c0,1a2,3,4,5,πaE-(;,6,7aI-(;,6,7aO-(;,6,7,8aU-(1,2,3hI-(1,2,3,4aK:-",
   "(1c0,1a2,3,4,5,π,K|E-(;,6aI-(;,6,7,8aO-(1,2,3,KIaU-(;,6,7hM:-(;,6,7aE-(1,2,MvI-(;,6,7aO-(;,6aU-",
   "(1,2,3,4hN(-MU-MO-(1,2aA-(;,πaE-(;,6,KOaI-(;,6,7,T|O-(;aU-(1,2,3hO-(1,2,3aR:-(1,2,3,4aE-(1,2,3,",
   "4aI-(;,6,7aO-(;,6aU-(;,6hS:-(;,6,7,8aE-(;aI-(;,6aO-(;,6,7aU-(;,6,7,8hT:-(1,2,3,4aE-(;,πaI-(;,6,",
   "7aO-(;,6,RvU-(1,2,3,4,TOhU-(;aW:-(;aE-(1,2,3,4aI-(;aO-(;,6,7hY:-(;,YOaO-(;,6aU-(1,2,3,4@R(B,MI&",
   "q CpJUGATE MATRIXaXAG]M FOReA(BUNDqCjFTn COMPs&p,PP_ACHaB(EFORE COMPs&p,IT~ <_UGH,REAK<_UGHaCO(",
   "M~ TO MEE?N(FLIC?TEMPLA&phD(iKx~ OF <E Lr,E(CREASjLIVnqCjVELOPMxTaI(FFICULTY AT <E BEGkN~,SPnSI",
   "paU]&pax<USIASM,F(ELLOWSHIP,OLLOW~aG:<n~ TOGE<n,R:CjEATeP(O(SS^SIp,WnaREPpDnqC|TAM~@HOLD~ TOGE<",
   "n,k(CREASjFLUxCjN(n TRU<,OCxCEhLIMITA&p,MO(D^TY,U< CORNnSaO(BSTRUC&p,PP(OSI&p,R^SIphP(EACj_GR^S",
   ",USH~ UPWiDaRE(T(REA?URNaVOLU&paS(MmLePREPpDnqCjTAM~aPLITT~ APi?TqDS&LLaT(HEeA(BYSMm WATn,R(MY,",
   "OUS~ <UNDnhC:ULDRp,L~~ FIRjREA&VE HEAVxaFAMILY,GxTs WkD,JOYOUS LAKjKEEP~.&LL MOUNTAk,MiRY~ MAID",
   "x,RECEP&VE Ei<,W(qDnn,ELLhREAD~aW:IT~,ORK p <E DECAYyaYOU<FUL FOLLYhI(BISCUS,GH(eBRrN^S=,OCTET ",
   "PR^E?VOLTAGEta-(HEEsD.HOjSPEy T]k!l BULsT NOSE@K~ BOO?NDU TEMPLjPPOPOTAMUS,]GqAeDIG]PH YOR[ITnA",
   "&p>,δAcRCHAICeWU,YEhB*j[O,UaD*j[O,UajG*j[O,UaH*j[O,Ua[K*j[O,UaM*j[O,UaNcfj[O,UaO,P*j[O,UaR*j[O,",
   "UaS*j[MmLefj[K*|O,TU,U,W*j[OaY*O,UhO,UaT*j[O,UaU,VU,W*j[OaY*O,UaZ*j[O,UhVOICy ITnA&p>aSTORIC.IT",
   "|O(CHO,L(jLOW QUILT.QUiE ORNAMxT!k τ.QUiEhMO<E&C,NEY( PO?BE|OK,P,R(IZpTmeB(i,LACKeHEXAGp,OCTAGp",
   "hELLIPSIS,LkE EXTxSIp,MmE l.T_KEt,pE ErH BLOCK-(1358,2,3,4,5,6,7aSCq LkE-(1,3,7,9aT:B( KEY,ULA&",
   "pceSE?l JUS&FICA&p@]FFIC LrhSEceFACj]C~@SPITm,T(eBEVnAGjDOG,PEPPn,SPR~SaELaU(RGLASS!l FLOW~.qDa",
   "SEceBUILD~cSal GiDx)@RYVNIAt,TcJ,SaU(GG~ FACjNDRy POkTS=,SHy FACjTaY(GIEfP(HxceBULs?l DIAn^ISa-",
   "MkUS,A&p POkTaODIASTOsaSTn^IS=))"]

def charNamesI : List String :=
  ["I( LOVE YOU HqDt,CEeC(REAM,UB|HOCKEY.&CK qD PUCK,SKAT|DE(N&(CmeTO!qD.LqTy PimsLalυ +|FICA&p CiD",
   "aOG]PHICeqNOTA&peBOTTOM>,Ei<>,F(IRST>,OUR(>,<>hHEAVx>,LkK~>,M(q>,IDDs>apE>,REVnSE>,SECpD>,T(H(I",
   "RD>,REE>aOP>,WO>hC(LOS~>,OMMvDE(PiT~ TpE>,SCRIP&p CHiACTne+E TOez,ξqD zaFULL.UR_UND,sFT TOeξqD ",
   "Rr,RraOVnLAID,SUR_UND F_Me+jz,L(EF?OWn sFTaUPPnesF?Rr)@xTn~ TpE>,FULL.TOP,HmF FILL.PACjITnA&p>,",
   "sVEL TpE>,NUMBn ZnO,RIS~ TpE>,SPACjT(mLY>eF(IVjOURapjT(HREjWOhEsG]PHeLkE FEy.EPiATOR=,SYMBOL FO",
   "ReA(PRIL,UGUSTaD:YeE(rcExasVxaF(I(FTEx,V|OURcTExhNkEcTExapjS(EVxcTExaIXcTExhT(x,H(IRT(Ex,Yc-pEh",
   "RE|W(E(LVjNTYc-(Er,F(IVjOURaNkjpjS(EVx,IXaT(HREjWO)@O@ECEMBnaFEBRUiY,HOUReE(rcExasVxaF(I(FTEx,V",
   "|OURcTExhNkEcTExapjS(EVxcTExaIXcTExhT(x,H(IRTEx,RE|W(E(LVjNTYc-(FOUR,pjT(HREjWO)@OhZnOaJ(qUiY,U",
   "(LY,NEhMA(RCH,YaNOVEMBn,OCTOBn,SEPTEMBn@ViIA&p kDICATORhM:GE OF!OR APP_XIMATELY EQUm TOaPcnIm i",
   "AMAICeδA(sPH,YkaBE<,DmE<,GIMEL,HEc<aKAPH,LAMyH,MEM,NUN,PjQOPH,R^H,S:(DHjMEKHaHkaT:W,E<aWAW,YODH",
   ",ZAYkaNUMBnepEcεhT(x!<OUSqDaHREjW(xTY,O@SEC&pt@N(BOX T]Y,C(OM(~ xVELOPjPsTE kFkITYaRE:SE( FpT.I",
   "ZE=,S ASaMxThDcEX!POkT~ AT <E VIEWnaI(q RUPEEt,C.IYAQemTnNATE LAKH>,F]C&pepEeHmF,QUiTna<REE QUi",
   "TnSaLAKH>,NUMBnemTnNATEepjT(x <OUSqD,WOhErcεaY!<OUSqDhF(I(FTY!<OUSqDaVEcε@O(RTY!<OUSqDaURcε)@Ki",
   "ORcqaLAKHcqaNkEcεaTY!<OUSqDhpEcεhPREFIXyeEr,F(IVjOURaNkjpjS(EVx,IXaT(HREjWOhS(EVxcεaTY!<OUSqDhI",
   "XcεaTY!<OUSqD@T(x!<OUSqDaH(IRTY!<OUSqDaREEcε@W(xTY!<OUSqDaOcε))@PLACEHOLDn,RUPEE>@F(kITY!NEGATy",
   " l ψ BiaORMA&peD^K PnSp,S(EPiATOReFOUR,pjT(HREjWOhOURCE@HIBITeiABICg.HAP~,SYMMETRIC.WAPP~aPUT= ",
   "FOReLATkeCAPITm sTTnS,sTTnS,SMmL sTTnSaNUMBnS,SYMBOLSaS(CRIP&pm PA(HLAVIeδmEPH,BE<,DmE<,GIMEL,H",
   "Ec<aKAPH,LAMyH,MEM-QOPH,NUN,PjS:(DHjMEKHaHkaT:W,E<aWAW-AYk-R^H,YODH,ZAYkaNUMBneFOUR,pEcεhT(x,HR",
   "EjW(xTY,O)@R<IqeδA(sPH,YkaBE<,DmE<,GIMEL,HEc<aKAPH,LAMyH,MEM,NUN,PjQOPH,R^H,S:(DHjMEKHaHkaT:W,E",
   "<aWAW,YODH,ZAYkaNUMBneFOUR,pEcεhT(x,HREjW(xTY,O))@n&p=aTE(GRmceA(_UND A POkT OPnATOR,VnAGE l.LA",
   "SHaEXTxSIp,leω.T_KjkTnSEC&p,sFTμu l λ,OVnBi,&M^t,UN(DnBi,Ip)@R(CmATjIOR P_DUC?L(kEi qNOTA&peqCH",
   "OR,SEPiATOR,TnMkATORaOCKy FEMmE qD MmEta_BqG,SEC&pce+EeBi +E UNIp,UNIpaB^IDE qD JOky l kTnSEC&p",
   ",leDO?LOGICm qD,OVnBi))@V(n(SEeBULs?CHECK(>,n BOiD FILLaDOWNμu l &P sFTμ,MyIUM.HADjWHITE CIRCsa",
   "TyeEXCLAMA&p>,kTn_BqG,L:ZY.,OW KAVYKA!l KAVYKA +EhOHMt,PxTAG]M,QU^&p>,UNDn&EhISIBsePLUS,SEPiATO",
   "R,&M^@ZAKAYA LqTnN)"]

def charNamesJ : List String :=
  ["J:(CK-O-LqTnN,Pq^EeBqK=,CASTLjDOLLS,GOBLk,kDUSTRIm.TqDiD=,OGRjPOST OFFICjSYMBOL FOR BEGkNnaR,Vq",
   "^EeCpSpqTteCAKRfKnE?PxGKmaDdaZnOas(FT RnxGGq,TTneAcIaBA!MURDvCA!MURDvD:!MAHAPRqvDA!MAHAPRqAhjGA",
   "!MURDvHfI!KAW[IaJA!MAHAPRqvKAceMURDfSASAKhLfMfN:!MURDvGA!ssT!]SWADIhYA!MURDAhO,PAceCnEK,MURDAh]",
   "!AGUNGaSA!M:HAPRqfURDAhT:!MURDvTA!MAHAPRqAhU,WfYAhPA(DAeA(DEG!ADEGaNDAPaISx-ISx,L(~SfU(HUR,NGSI",
   "hMADYfP(qGKA?ISEsHa&RTA TUMET^,WkDUaNG(Kp,RqGKEPhRr RnxGGq,SIGNeCECAK!TELUaLAYi,PqYqGGfWIGNYqaT",
   "URNy PADA PISEsH,VOWELteDIRGA MURjPEPE?SUKU!MxDUTaT:(L~,RUNGaOLpGaWULU!MELIK)@EqS,IGSAW PUZZs P",
   "IECjO(k,YS&CKaU(GGL~,NO,PITn))"]

def charNamesK : List String :=
  ["K::BfI<IeABBREVIA&pt,D(qDfOUBseDqDfSEC&p>hxUMnA&pt,δAcf[UaB*HvC*HvD*D*DHfHvHvjG*HvHfIcIaJ*HvK*H",
   "vLfMfN*GfNfYvO,P*HvR*HvS*HfSvT*HfT*HAhUcUaVfYvNUMBnt!+|S(EC&p>,IGNeqUSVifCqD]BkDU,NUKTfVI(]MfSi",
   "GA@VOWELteA*[UajIcIaO,UcUaVOCmIC RhN(G(iOO,XI ]DICmeA(GAk,ND,RR(IVjOWaX|B:(DGn,MBOOaEq,I(G,RD,T",
   "TnaL:CK,OOD,U|O:?DY,LT OF CLO<,NjWaR(qCH,ISTLjUSHhC:(R?ULDRp,V|HILD,ITY,L:(N,WaIFF,O<^aO(LOR,MP",
   "ijRPSjVn,WhD(E:<,naI(PPn,S(H,T~UISHaVkA&paO( NO?G,OR,TcTyeCLIFF,TxThUBs X,WN BOXaR:Gp,UM,YhE:(R",
   "c<aTar,MB_IDnY,N(CLOSURjTnaVxc~aY|F:(CjNG,<naEA<n,I(ELD,GH?RjSHaL(UTjYaOO?R:GRq?OGaURaG:TjHOS?O",
   "!SLOWLY,LDa](k,SShH:(IR,L(BnD,F TREE TRUNKaNDaE:(D,RTaMPaID~ xCLOSURjO(OK,R(N,SE@I(CjN(CH,SECTh",
   "JA(DjRaKNIFjL:(CK,M|E:(F,<naEK,GSaI(D,FjN|pG!STRIDEhM(q,E:?LpaI(Ls?NISTnaO(p,R(N~,TiaU(N(D,TAka",
   "<@N(E?O(SjThO(LD,NEcSELFaP(x BOX,POSEhP(IG,LOW,OWn,R(IVATjOFOUNDhR:(k,P,Tay,I(CjGHT OPx BOX,Vna",
   "OOF,UNaS:(CRIFICIm WkjL?YaC(HOLi,RIPTaE(m,CpD,jLFaH(E(EP,LLaO(O?RT T:IsD BIRD,HREAD@I(CKN^S,LKa",
   "Kk,L:(SH,V|IC|MmL,NOU?OUND,P(E(i,ECHaIRI?Op,_UTaQUijT(qD,E:M,PaO(NjPcP~@UN,WEETaT:(BLjLL,NNy sA",
   "<nax,I(Gn,saO(NGUjO<aR:CK,EjIPODaUR(Bq,TsaWO!HqDShUSjV(msY,ILLAG|W:(LK!xCLOSUR|TnaE:Pp,STaH(EA?",
   "IT|k(D,|O(Mq,RKaR:P,pGhYELLOWhNADAeAI sNG<>,DdaZnOas(NG<>,TTneAcf[UaB*HvC*HvD*D*HvHvEc|FfG*HvHf",
   "IcIaJ*HvK*HvL*L*LAhMfN:cKAiA POLLUaGfNfYvOcOaP*HvR*RvS*HfSvT*HfT*HAhUcUaV*ρ@YAhSIGNeA(NUSVifVAG",
   "]HvCqD]BkDU,JIHVAMULIYfNUKTfS(IDDHAM,PAC~ CqD]BkDUaUPADHMqIYfVI(]MfSiGAhVOWELteA*[UaEc|IcIaOcOa",
   "UcUaVρ))@TAKqA(eDIG]PH KOTO,ITnA&p>,δAcRCHAICejWU,Y(jI@B*j[O,UaD*j[O,UajG*j[O,UaH*j[O,Ua[K*j[O,",
   "UaM*jIcNNqeNASmIZy TpE-(;,7,8aTpE-(2,3,4,5,7,8@O,UaNcfj[O,UaO,P*j[O,UaR*j[O,UaS*j[MmLefjH*j[O,U",
   "a[K*jUaMU,NcUaO,R*j[O,UaS([UaT(O,UaU,W*j[OaY*O,UhO,UaT*j[O,UaU,V*j[O,UaW*j[OaY*O,UaZ*j[O,UhξDO?",
   "VOICy ITnA&p>a-HI]GqAeω HYPHx,P_LpGy.OUND>,SEMI-VOICy.OUND>,VOICy.OUND>hYAH LIeDdaZnOaδfBfCfDfG",
   "fH*Tv[K*HvLfMfN*GfYvO(jOaP*HvRfS*HvT*HvVfWfYfZvSIGNeCW[SHYvTpEeCmYA!PLOPHUaPLOPHUaVOWELeEc|O,Uc",
   "E)@E(LVkt,YcBOiD!qD MOUS|CAP TxhH(iOSH<IeDIGITeFOUR,pjT(HREjWOhF]C&p pE HmF,δfB*HvC*HvD*D*HvHvG",
   "*HvHfJfK*HfKvLfMfN*NfYvP*HvRfS*HfSvT*HfT*HfT*HA@V*HvYfZvNUMBnepEεaT(x,WxTYhPUNCTUA&peC(IRCLjR^C",
   "xT BiaD(qDfO(?UBs DqDAhL(k^,OTUSaMqGmAM,SMmL CIRCsaSIGNeqUSVifBi +jCAUDfDO(T z,UBs R~ zaVISiGvV",
   "(I]MfOWELesNG<>,SIGNej[O,U,VOCmIC R)@ITq.MmL.CRIPTeCHiACTn-18(B(0w1w2w3w4w5w6w7w8w9wAwBwCwDwEwF",
   "(b,fB,C,D,jFhC(0w1w2w3w4w5w6w7w8w9wAwBwCwD(0,;@FILLnaMneCURRxCY= RIEL,DdaZnOakDEPxDxT VOWELeLYc",
   "YaQ:*[Q,UajIcIaOO TYPEepjTWOaUcK,UcV@RYcYhδBfC*H*OaOaD*OaHfK*H*OaOaL*OaMO,N(GO,NO,O,YOaP(H*OaOa",
   "Qf_,S*HfSOaT*H*OaO,<*OhVO,YOaS(IGNeA(HSDfT<ACq,VAK]HASqYvB:(NTOC,RIYOOSq,<AMASATaEYYmaC:MNUC PI",
   "I KUUH,OxGaK:KABA?Hq,OOMUUTasK TOO,MUUSIKATOq,NIKAHI?PHNAEK MUq,R(EAHMUK,OBATaSAMYOK.qNYfT(OqDA",
   "KHIA?RIISAPaVIRIAM,YUUKmEAPkTUaYMBOLeB(EIeKOE?_CaUpeKOE?_ChDAP(eKOE?_Ca-(B(EIeKOE?_CaUpeKOE?_Ch",
   "MUOYeKOE?_CaP(IIeKOE?_Ca]MeKOE?_C)@sK ATTAKeB(E[UpaMUOY,P(I[]Mc-(B(E[UpaMUOY,PII@SpaMUOYeKOE?_C",
   "aP:<AMASA?IIeKOE?_Ca]M(eKOE?_Ca-(B(EIeKOE?_CaUpeKOE?_ChMUOYeKOE?_CaPIIeKOE?_C)@TUTEYASAThVOWELe",
   "kHnxT A*QaSIGNeA*j[UajIcjIaO(jOaUcfUaYcfY)@OJKIeABBREVIA&pt,D(qDfOUBseDqDfSEC&p>hδAcf[UaB*BfHvC",
   "*HvD*D*DfHvHvjG*GfHvHf[J*JvK*HvL*LvMfN*GfNfYvO,P*HvRfSfT*HfT*HAhU,VfYvS(EC&p>,IGNeqUSVifNUKTfS(",
   "HADDfUKUNaVI]MAhVOWELteA*[UajIcIaO,UaWORD.EPiATORaUDAWADIeDdaZnOaδAcf[UaB*BfHvC*HvD*D*DfHvHvjG*",
   "GfHvHfIcIaJ*HfJvK*HvLfMfN*GfNfYvO,P*HvR*RvS*HvT*HfT*HAhUcUaVfYvSIGNeqUSVifNUKTfVI]MvVOWELteA*[U",
   "ajIcIaO,UcU)@I(MpO,Pt,SS!MiK,~eCAT FACE l CLOSy EY^,FACE!leCLOSy EY^,SMIL~ EY^)@TjWIFRUITaN(EEL",
   "~ PnSp,OTaO(mfREq.TqDiD=aRpOS)"]

def charNamesL : List String :=
  ["L( B Bi=,A(B( COA?ELaC_SSE.&CK qD BmL,D(Dn,Y BEETsaNGUAGE TAG,OeCqCELLA&p>,DdaZnOaELLIPSIS,HOeM",
   "O,NOaKO LfδBO,CO,DO,FOeF:Y,paSUNG,TAMaHOeSUNG,TAMaK(H(MUeGO,NYOaOeSUNG,TAMhOaLO!L(~,OOThMO,N(GO",
   ",O,YOaO,P(mIeBHfCHfD(D*HvHvGHfJHfLLfN(NfYvTT*HAhHOeSUNG,TAMaOa_,S(qSKRIT.(HfSvOeSUNG,TAMhT(HOeS",
   "UNG,TAMaOaWO,YOaNIGGAHITfS(EMIVOWELteLO,NYOaIGN PmI VI]MvTpE MAIeCATAWfEK,T(HO,IhVOWELteAcf[M,Y",
   "aEcIaIcIaMAI K(q,paO,UcUaYcY@R(GE(eB(LUEeCIRCLjDIAMpD,SQUi|_WNeCIRCLjSQUiEhCIRCLjDOWN TACK,GREx",
   "eCIRCLjSQUi|sFT TRIqGs OPnATOR,O(NEeDOT OVn TWOυS PUNCTUA&p,R~ OVn TWO R~S PUNCTUA&paRqGEeCIRCL",
   "jDIAMpD,SQUiEhPURPseCIRCLjSQUi|RyeCIRCLjSQUi|T(RIPs ψ Bi OPnATOR,WOeDOTS OVn pEυ PUNCTUA&p,R~S ",
   "OVn pE R~ PUNCTUA&phUP TACK,YELLOWeCIRCLjSQUiEhR <q!OR EQUm TOhItaST QUiTn MOpceSYMBOL,l FACEhT",
   "keC:PITm L(ETTneA!leACUTjBREVE!qDeACUTjDOT z,G]Vjλ +j&LDEhC(ip,IRCUMFsX!qDeACUTjDOT z,G]Vjλ +j&",
   "LDE@D(IAn^IS!qD MACRpaO(Te+E!qD MACRpazaUBs G]VEhG]Vjλ +jkVnTy BREVjMACRp,OGpEK,R~e+E!qD ACUT|z",
   "aST_Kj&LD|fE!leACUTjMACRphFRICq D,LPHfNGLICqA W,O,U,V!l ζ BiaYaB!leDOTe+jzaFLOURISH,λ,LkE z,ST_",
   "KjTOPBiaETf_Kx LaC!leACUTjBi,C(ip,yILLA!qD ACUT|IRCUMFsXaDOT +jλ,PmATm λ,ST_K|H[LOSy kSULi G,p,",
   "UATRILLO!l COMMAhD!leC(ip,yILLfIRCUMFsX zaDOTe+jzaλ,LkE z,S(HORT.T_KE OVnLAY,MmL sTTn Z!l CipaT",
   "_K|TOPBiaZ!l CiphE!leACUTjBREVjC(ip,yILLA!qD BREV|IRCUMFsXceqDeACUTjDOT z,G]Vjλ +j&LD|z@D(IAn^I",
   "S,O(Te+jzaUBs G]VEhG]Vjλ +jkVnTy BREVjMACRp!qDeACUTjG]VEhOGpEK,ST_Kj&LDE!zhGYPTOLOGICm A(k,sFaN",
   "G,SH,TcHaZHceREVnSy,l Cip@F!leDOT +jλ,ST_KEhG!leACUTjBREVjC(ip,yILLfIRCUMFsXaDOT +jλ,MACRp,OBLI",
   "QUE.T_KjST_K|AMMfHfLOTTmef[STOP,UhH!leBREVE z,C(ip,yILLfIRCUMFsXaD(^CxDn,IAn^IS,OTe+jzhλ,ST_K|m",
   "F H,xG,WAIRaI!leACUTjBREVjC(ip,IRCUMFsXaD(IAn^IS!qD ACUT|O(Te+jzaUBs G]VEhG]Vjλ +jkVnTy BREVjMA",
   "CRp,OGpEK,ST_Kj&LDE!zhNSULieD,F,G,R,S,TaOTfSaJ!leC(IRCUMFsX,_SSy-TAILaST_KEhK!leACUTjC(ip,yILLv",
   "D(^CxDn,IAGpm.T_KjOT zaλ,LkE z,OBLIQUE.T_KjST_KE!qD DIAGpm.T_KE@L!leACUTjB(i,ELTaC(ip,yILLfIRCU",
   "MFsX zaDO(T z!qD MACRpaUBs BiaHIGH.T_KjLkE z,MIDDseDO?&LD|S(MmL sTTn J,T_KEhJaM!leACUTjDOTe+jza",
   "λaIDDs(.COTS.,-WELSHeLL,V@N!leACUTjC(ip,yILLfIRCUMFsX zaD(^CxDn,OTe+jzhG]VjL(EFT λ,kE z,pG Rr s",
   "GaOBLIQUE.T_KjSMmL sTTn J,&LD|JaO!leACUTjBREVjC(ip,IRCUMFsX!qDeACUTjDOT z,G]Vjλ +j&LDE@D(IAn^IS",
   "!qD MACRpaO(Te+E!qD MACRpazaUBseACUTjG]VE@G]VjHO(OK +jRN!qDeACUTjDOT z,G]Vjλ +j&LDE@kVnTy BREVj",
   "LO(NG.T_KE OVnLAY,OPaM:CRp!qDeACUTjG]VEhIDDs &LD|OGpEK!qD MACRpaST_KE!qD ACUT|&LDE!qDeACUTjDIAn",
   "^IS,MACRp@[LD POLISH O,MEGfO,PxejOaUaP!leACUTjDOT +jFLOURISH,λ,S(QUIRREL TAIL,T_KE!<_UGH D^CxDn",
   ")@Q!leDIAGpm.T_KjST_KE <_UGH D^CxDnhRce_TUNDfleACUTjC(ip,yILLvDO(Te+jz!qD MACRphUBs G]V|kVnTy B",
   "REVjLkE z,OBLIQUE.T_KjST_KjTAILhEVnSyeC l DO?jHmF H,OPx |UM _TUNDvS!leACUTE!qDυ +|C(ip!qDυ +|yI",
   "LLfIRCUMFsX,OMMA zaDOTe+jz!qDυ +Ehλ,OBLIQUE.T_KjS(HORT.T_KE OVnLAY,WASH TAILhm&LLO,C(HWfRIPT Ga",
   "HiP.,IGMOID.,MmLeCAPITm [Q l λ TAILhT!leC(ip,yILLfIRCUMFsX z,OMMA zaD(IAGpm.T_KjOTe+jzhλ,LkE z,",
   "RET_FsX λ,ST_K|HORN!l.T_KE!<_UGH D^CxDnhpEeFIVjSIX,TWOaR^ILLO,URNyeAcLPHvH,kSULi G,K,L,M,?VaZaU",
   "ceBi,leACUTjBREVjC(ip,IRCUMFsX!zhD(IAn^ISceqDeACUTjCip,G]VjMACRpazhO(T z,UBseACUTjG]VE@G]VjHO(O",
   "K +jRN!qDeACUTjDOT z,G]Vjλ +j&LDE@kVnTy BREVjMACRp!qD DIAn^ISaOGpEK,R~ +jST_Kj&LDEceqD ACUTjz)@",
   "PSILpaV!leD(IAGpm.T_KjOT zaλ,&LD|xD,ISIGO<IC Z,OLAPUKeAjOjU|YaW!leACUTjCIRCUMFsX,D(IAn^IS,OTe+j",
   "zhG]VjλaYNNaX!l D(IAn^IS,OT +EhY!leACUTjCIRCUMFsX,D(IAn^IS,OTe+jzhG]Vjλ!+|LOOP,MACRp,ST_Kj&LD|O",
   "GHaZ!leACUTjC(ip,IRCUMFsXaD(^CxDn,OTe+jzhλ,LkE z,PmATm λ,S(T_KjWASH TAIL)@IGATUREeIJ,OEh_SSaEPI",
   "G]PHIC δiCHAIC M,I( LpGfNVnTy MaREVnSyeF,PaSIDEWAYS IaδA(k,LVEOLi CLICKaBI(DxTm PnCUSSIVjLABIme",
   "CLICK,PnCUSSIVEhDxTm CLICK,GLOTTm.TOP!l.T_K|kVnTy GLOTTm.TOP!leCURL,ST_KEhLATnm CLICK,PHiYNGEm ",
   "VOICy FRICA&VjRE(T_FsX CLICK!l RET_FsX λaVnSye^H LOOP,GLOTTm.TOP l.T_KEhS(kOLOGICm DO?MmL CAPIT",
   "meAc|BciRy BaC,D,Ec<,ZHaF,G!l λaH,IcNVnTy RaJ,K,L!leBEL?ST_KEhM,N,OcjPx O,UaP,Q,R!l Rr sG,EVnSy",
   "eN,RaUMaS,TcURNyejG,K,M,RhU,V,W,Y,ZaTRETCHy C!l CURLhTWO l.T_KjVOICy LiYNGEm.PIRq?WYNN,YRaS(MmL",
   "eCAPITm δI l.T_KjU l.T_K|L(ETTneAceREVnSy-SCHWfleACUTjBREVE!qDeACUTjDOT z,G]Vjλ +j&LDEhC(ip,IRC",
   "UMFsX!qDeACUTjDOT z,G]Vjλ +j&LDE@D(IAn^IS!qD MACRpaO(Te+E!qD MACRpazaUBs G]VEhG]Vjλ +jkVnTy BRE",
   "VjMACRp,OGpEK,R(ET_FsX λ,I(GHT HmF R~,NGe+E!qD ACUT|z@ST_Kj&LDEhfE!leACUTjMACRphLPHA!l RET_FsX ",
   "λaNGLICqA W,O,U,V!l ζ BiaYaB!leDOTe+jzaFLOURISH,λ,LkE z,ξ&LDjPmATm λ,ST_KjTOPBiaA(RRyemPHfjOaSE",
   "LkE ^HaETfLACKδjO!l.T_KEhOTTOM HmF O,_Kx LaC!leACUTjBi,C(ip,yILLA!qD ACUT|IRCUMFsX,URLaDOT +jλ,",
   "PmATm λ,RET_FsX λ,ST_K|HI!l LOWesFT.nIF,Rr R~hLOSyekSULi G,O(MEGfPx |REVnSy OPx |p,UATRILLO!l C",
   "OMMAhD!leC(ip,yILLfIRCUMFsX z,URLaDOTe+jzaλ!qD TAILaLkE z,ξ&LDjPmATm λ,S(HORT.T_KE OVnLAY,T_K|T",
   ":IL,OPBihB DIG]PH,E(LTfZH DIG]PH!lePmATm λ,RET_FsX λ@O(TsSSe[J!l.T_KE!qD λ@UBseR!l C_SSy-TAILa<",
   "ORN,WYNNhUM,ZceDIG]PH!leCURL,RET_FsX λhl Cip@E!leACUTjBREVjC(ip,yILLA!qD BREV|IRCUMFsXceqDeACUT",
   "jDOT z,G]Vjλ +j&LD|z@D(IAn^IS,O(Te+jzaUBs G]VEhFLOURISH,G]Vjλ +jkVnTy BREVjMACRp!qDeACUTjG]VEhN",
   "OTCH,OGpEK,RET_FsX λ,ST_Kj&LDE!zhGYPTOLOGICm A(k,sFaNG!leC_SSy-TAIL,PmATm λhSH!leCURL,ω Bi!qD C",
   "URLaPmATm λ,RET_FsX λhTcHaZHceREVnSy,leC(ip,URLaPmATm λ,RET_FsX λ,TAIL)@F!leDOT +jλ,ξ&LDjPmATm ",
   "λ,ST_K|xG DIG]PH!l TRILLhG!leACUTjBREVjC(ip,yILLfIRCUMFsXaDOT +jλ,MACRp,OBLIQUE.T_KjPmATm λ,ST_",
   "K|AMMfHfLOTTmef[STOP,UhH!leBREVE z,C(ip,yILLfIRCUMFsXaD(^CxDn,IAn^IS,OTe+jzhλ,LkE z,PmATm λ,ST_",
   "K|mF H,xG!l λaVaI!leACUTjBREVjC(ip,IRCUMFsXaD(IAn^IS!qD ACUT|O(T z,UBs G]VEhG]Vjλ +jkVnTy BREVj",
   "MACRp,OGpEK,RET_FsX λ,ST_KE!qD RET_FsX λa&LDE!zhN(SULieD,F,G,R,S,TaVnTyemPHfOEhOT:!l.T_K|IFIy |",
   "SaJ!leC(ip,IRCUMFsX,_SSy-TAILaST_KEhK!leACUTjC(ip,yILLvD(^CxDn,IAGpm.T_KjOT zaλ,LkE z,OBLIQUE.T",
   "_KjPmATm λ,ST_KE!qD DIAGpm.T_KEhRvL!leACUTjB(i,ELT!qD PmATm λhC(ip,yILLfIRCUMFsX z,URLaDO(T z!q",
   "D MACRpaUBseBi,ξ&LDEhFISHλ,HIGH.T_KjkVnTy LAZY.,LkE z,MIDDseDO?R~,&LD|PmATm λ,RET_FsX λ!qD BELT",
   "aST_K|AMBDA l.T_KjE(NIS F,ZH!l RET_FsX λhJ,pG.!leD(IAGpm.T_KjOT +|HIGH.T_KEhS DIG]PH,UM,Z DIG]P",
   "HaM!leACUTjC_SSy-TAIL,DOTe+jzaλ,ξ&LDjPmATm λaIDDs(.COTS.,-WELSHeLL,VhUMaNcePRECyy BY APOST_PHjl",
   "eACUTjC(ip,yILLfIRCUMFsX z,_SSy-TAIL,URLaD(^CxDn,OTe+jzhG]VjL(EFT λ,kE z,pG Rr sGaξ&LDjOBLIQUE.",
   "T_KjPmATm λ,RET_FsX λ,&LDEhJ,UMaO!leACUTjBREVjC(ip,IRCUMFsX!qDeACUTjDOT z,G]Vjλ +j&LDE@D(IAn^IS",
   "!qD MACRpaO(Te+E!qD MACRpazaUBseACUTjG]VE@G]VjHO(OK +jRN!qDeACUTjDOT z,G]Vjλ +j&LDE@kVnTy BREVj",
   "LO(NG.T_KE OVnLAY,OP,W R~ kSID|MACRp!qDeACUTjG]VEhOGpEK!qD MACRpaRET_FsX λ,ST_KE!qD ACUT|&LDE!q",
   "DeACUTjDIAn^IS,MACRp@[LD POLISH O,MEGfO,PxeE!l RET_FsX λaO!leRET_FsX λ,ST_K|EhUaP!leACUTjDOT +j",
   "FLOURISH,λ,ξ&LDjPmATm λ,S(QUIRREL TAIL,T_KE!<_UGH D^CxDn@HIaQ!leDIAGpm.T_Kjλ!TAILaST_KE <_UGH D",
   "^CxDnaP DIG]PHaRce_TUNDfl(eACUTjC(ip,yILLf_SSy-TAILaDO(Te+jz!qD MACRphUBs G]V|FISHλ!qDeξ&LDjPmA",
   "Tm λhkVnTy BREVjL(kE z,pG sGaξ&LDjOBLIQUE.T_KjPmATm λ,ST_KjTAILaOUT HqDshAMS HORN,EVnSyeC!lυaEc",
   "NGaHmF H,K,OPx E!leλ,RET_FsX λhR l FISHλ,SCRIPT GaUM!_TUNDAhS!leACUTE!qDυ +|C(ip!qDυ +|yILLfIRC",
   "UMFsX,OMMA z,URLaDOTe+jz!qDυ +Ehλ,ξ&LDjOBLIQUE.T_KjPmATm λ,S(HORT.T_KE OVnLAY,WASH TAILhA(KHA Y",
   "A?L&LLOaC(HWA!leλ,RET_FsX λhRIPTeG!l C_SSy-TAILaR!l R~@HiP.,I(DEWAYSeDIAn^IZy U,O!l.T_KjPx OaTU",
   "RNy M,UaGMOID.aQUAT REVnSy ^H,&RRUP RaT!leC(ip,yILLfIRCUMFsX z,OMMA z,URLaD(IA(n^IS,Gpm.T_K|OTe",
   "+jzhλ!qD RET_FsX λaLkE z,ξ&LDjPmATm λ,RET_FsX λ,ST_K|AILsSS PH[C DIG]PH l CURL,^H DIG]PH!lePmAT",
   "m λ,RET_FsX λhH( l.TRIKE<_UGH,ORN!l.T_KE!<_UGH D^CxDn@O(NEeFIVjSIX,TWOaP HmF OaR^ILLO,S DIG]PH!",
   "l RET_FsX λaU(M,RNyeAcjLPHvDELTfjG,H!l FISHλ!qD TAILhIcNSULi GaK,L,M!l LpG sGaO( OPx-O!l.T_K|E!",
   "leζ.T_KjST_KEhPx |R!leλ,LpG sG!qD RET_FsX λaξ&LDjPmATm λ,TAILhT!l CURLaU[V,W,Y!l BELT@ZaUceBi!l",
   ".HORT Rr sGaleACUTjBREVjC(ip,IRCUMFsX!zhD(IAn^ISceqDeACUTjCip,G]VjMACRpazhO(T z,UBseACUTjG]VE@G",
   "]VjHO(OK +jRN!qDeACUTjDOT z,G]Vjλ +j&LDE@kVnTy BREVjsFT λ,MACRp!qD DIAn^ISaOGpEK,R(ET_FsX λ,~ +",
   "|S(HORT Rr sG,T_K|&LDEceqD ACUTjz)@j[M,O,PSILp!l.T_KEhV!leCURL,D(IAGpm.T_KjOT zaλ,PmATm λ,Rr λ,",
   "&LD|xD,ISIGO<IC Z,OLAPUKeAjOjU|YaW!leACUTjCIRCUMFsX,D(IAn^IS,OTe+jzhG]Vjλ,R~ +EhX!leD(IAn^IS,OT",
   " +|LO(NG sFT sGceqD LOW Rr R~,l.nIFhW Rr R~aPmATm λhY!leACUTjCIRCUMFsX,D(IAn^IS,OTe+jzhG]Vjλ!+|",
   "LOOP,MACRp,R~ +jS(HORT Rr sG,T_K|&LD|OGHaZ!leACUTjC(ip,IRCUMFsX,URLaD(^CxDn,OTe+jzhλ,LkE z,ξ&LD",
   "jPmATm λ,RET_FsX λ,S(T_KjWASH TAIL)@IGATUREeF(Fc[La[LaIJ,LpG. ?OjST@UBSCRIPT.MmL δfjH,[J,K,L,M,",
   "N,O,P,R,ScCHWv?U,V,X)@E:F( FLUTTn~ k WkD,Y GRExaDGn,FT(eA(N(DeLOWneqD Rr TRIqGULi <REE QUiTnS B",
   "LOCK,pE ErH BLOCKaRreω TURNS&LjT:CK,RIqGULi HmF BLOCKhUPPneqD Rr TRIqGULi <REE QUiTnS BLOCK,pE ",
   "ErH BLOCKhG(n BUBBLjsθT!lυ@R(C sSS-<qθ?_W leCIRCsD PLUS,SMmL CIRCs@B(iBeDOWN Rr BiBeDOWN HiPOp,",
   "UP HiPOpaUP Rr BiBeDOWN HiPOp,UP HiPOphLACKesN&CULiθ?TORTOISE.HELLθThC(EIL~,LOSy xTRY,ORNnθ?URL",
   "YθTceLOWn λ,ξPIECjUPPn λ@DO(TTy.UBS&TU&pθ?UBseqGsθ?Pix<^IS,QUOTA&p>,WIGGLY FxCEhF(I(SH TAIL,VE ",
   "ErHS BLOCKaLOORaHA(LFeBL:CKeCIRCLjSTiaOCKaCIRCs!leDO?FOURυS,T(HREEυS,WOυS@FOLDn,kVnSE MyIUM.HAD",
   "E qD Rr HmF BLOCK,MyIUM.HADjRUNN~ MqaND TEsPHpE RECEIVnaL(OW PiAPH]SEθ?UGGAG|MUL&MAP,NORMm FACT",
   "OR.EMIDIRECT P_DUC?O(NEeErH BLOCK,QUiTn BLOCKaUTn JOkaPix<^ISceEXTxSIp,LOWn λ,UPPn λhR:ISy OMIS",
   "SIpθ?rei_Wce<_UGH.MmL CIRCLjleω ψ.T_KjST_Kjψ.T_KE@τu,ωu!leST_Kjψ.T_KEhOPx-HEADyu,SqS-SnIFu,TRIq",
   "Gs-HEADyu,W:VEu,HITEu@S(-SHAPy BAG DELIMITn,E(MIDIRECT P_DUC?Vx ErHS BLOCKaI(DEWAYS Uθ?NGs QUOT",
   "A&p>aPEECH BUBBLjQUiEθTceEXTxSIp,LOWn CORNn,UPPn CORNn,leω.T_KjQUILL,ST_Kj&CK keBOTTOM CORNn,TO",
   "P CORNnaUNDnBi@UBS&TU&pθTaT:CK,H(IRD WHITE Rr POkT~ kDEX,OUGHT BUBBLjREEeErHS BLOCK,QUiTnS BLOC",
   "KhORTOISE.HELLθ?R(qSPOSI&pθ?IqG(s B^IDE ψ Bi,ULi pE QUiTn BLOCK@ψ B(i l QUILL,OX Lk|W(HITEeC(OR",
   "Nnθ?URLYθTasN&CULiθ?Pix<^IS,SQUiEθ?TORTOISE.HELLθTaIGGLY FxCjRIT~ HqDh-(FAC~eiMxIq ETnNITYt,FIS",
   "?SVAS&t!lυShHqDy kTnLACy PxTAG]M,POkT~eqGsθ?CURVy qGsθ?ω qGs QUOTA&p>,MAGNIFY~ GLASSaS(HADy WHI",
   "TE Rrμu,IDE iC q&CLOCKWISEuaTO-RreEMByD~,ISOLATjMiK,OVnRIDEhμei_WceA(BOVEemMOST EQUm TO,REVnSEe",
   "mMOST EQUm TO,&LDE OPnATORaSHORT Rrμu,&LDE OPnATORaND UPPn qD LOWn pE ErH BLOCKaF_M Bi!TO τ DIA",
   "MpDaOVn Rrμu,T(H_UGHesSS-<q,SUBSE?XaO B(i!OVn Rrμu TO BiaLACK DIAMpDhleDO(TTy.TEM,UBs ψ.T_K|EQU",
   "ILATnmuHEAD,λ,L(iGE TRIqGsuHEAD,OOPaMyIUM TRIqGsuHEAD,NOTCHy TAIL,PLUS z,S(MmLeEQUILATnmuHEAD,T",
   "RIqGsuHEADaT_K|T:IL!leω ψ.T_Kjψ.T_KEhIPeDOWNμ,UPμhψ.T_KEh-TAILaB:CK-&LTy.HADOWy WHITEu,LACKei_W",
   ",CIRCsD WHITEuaOTTOM-SHADy WHITEuaCOMPR^Syu,D:SHyu,OUBsei_WceF_M Bi,leST_Kjψ.T_KEh-TAILaDASHuhF",
   "(~n-POSTu,RpT-&LTy.HADOWy WHITEuaH:(ND,RPOpeOVn Rrμ HiPOp,l BiBeDOWN(e+E Rrμ HiPOp l BiB DOWN,z",
   " LpG DASH,F_M Bi,TO BiaμaUP(e+EeL(EFTμ HiPOp l BiB DOWN,pG DASHaRrμ HiPOp l BiB UPaF_M Bi,TO Bi",
   "aμ)@EAVYei_W,COMPR^SyuhsFT-SHADy WHITEu,OPx-HEADyu,PAIRyuS,QUADRUPsu,R(r-SHADy WHITEu,OCKETaS(q",
   "S-SnIFu,QU(iyu,IGGsuhT(OP.HADy WHITEu,RI(qGs(uHEAD,-HEADyei_WceOVn Rrμ TRIqGs-HEADyu,TO Bi,leBO",
   "LD.HAF?ωeζ.T_Kjψ.T_K|HEAVY.HAF?LpG &PeDOWNμ,UPμaMyIUM.HAF?Ni_W.HAF?VnY HEAVY.HAFT@DASHyu,PAIRyu",
   "ShPsei_W,DASHuhWO( HEADyu,-HEADyei_WeF_M Bi,leω ψ.T_KjT:IL!leω ψ.T_Kjψ.T_KEhRIqGsuHEADSaψ.T_KEh",
   "TRIPs DASHu@W:VEu,HITEu!lk TRIqGsuHEAD)@G,Mp,OcPiDaPCHAeCpSpqTteKcqGaL,M,NcYk-DOaP,R,TaDdaZnOaδ",
   "fB*LvC*HvD*DfZvF*LvG*LvH*LvJfK*HfLvLfM*LvN*GfYvP*HfLvRfS*HvT*HfS*HvT*HAhVfWfYvPUNCTUA&peCn-WfNY",
   "ET <YOOM TA-_L,T:-_L,Sλ!Cn-WA@S(IGNeNUKTfRqaUBJOky δRfYAhVOWELteAfj[OcOaUcU@SS-<qeA(BOVEeω-LkE ",
   "EQUm +E GREATn-<q,GREATn-<q +E ω-LkE EQUm,sFTμu,S(IMILie+E GREATn-<q,OR EQUmaLqTy EQUm +E GREAT",
   "n-<q +E.LqTy EQUmhNDeNOT APP_XIMATjS~s-LkE NOT EQUm TOhBUT NOT EQU(m TO,IVmxT TOaCLOSy BY CURVE",
   "!+E.LqTy EQUmaEQUm TO OR GREATn-<q,O(ReAPP_XIMATjEQU(m TO,IVmxT TOaGREATn-<q,SLqTy EQUm TO!lυe+",
   "E!RrakSIDE@Vn EQUm TOaSIGN,leCIRCs kSIDjDO?QU^&p> +EhVEL.LIDnaF,I(BRfG:TURE OPx ET ORNAMx?HT(eC",
   "HECK>,Er.POKy ASTnISK,F(IVEePOkTy τ.Ti,SPOKy ASTnISKaOUR POkTy τeCUSP,STihGREEK C_SS,sFT TORTOI",
   "SE.HELLθT ORNAMx?R:IL,r TORTOISE.HELLθT ORNAMxTaS(m&RjHADjIX.POKy ASTnISKaT(HREE POkTy τ.Ti,WEL",
   "VE POkTy τ.Tiaψ Bi,WHITE.QUi|N~!MOOD!BUBBs)@M(BUeDdaZnOaEXCLAMA&p>,δB*HvC*HvD*HvG*HfYqaHfJ*HvK*",
   "HvLfMfN*GvP*HvRfS*HfSvT*HfRvWfYAcNhQU^&p>,S(IGNeKEMPHRxG,LOO,MUKPHRxG,SA-IaMmL δqUSVifKfLfMfN*G",
   "vPfRfTvUBJOky δRfWfYAhVOWEL(teAc[UaEc|[OcOaUa-CiRIn sTTnhITy LIABILITYtaN(E(eFEy,kTEG]&peNOT kC",
   "LUD~ <E POLjleRECTqGULi PA< iOUND POLjSEMICIRCULi PA< iOUND POshSEPiATOR,TABULA&p!SEThieAt A(02",
   "8B,1(00-102,20B,31Ca3(0(;,π*B,Ch1(0,1,2,3*B,Ca4,5,πa2(ba3(ba4(ba5(ba6(ba7(0,1h4(0(0-VAS,1-VAS,2",
   "-VAS,3-VAS,4-VAS,5-VAS,6-VAS,7-VAS,8-VAS,9-VASa1(0-VAS,1-VAS,2-VAS,3-VAS,4-VAS,5-VAS,6-VAS,7-VA",
   "S,8-VASh5(0(;,6,8,9a1(0,1,2,3,5,6a2(0,1,3,4,5,πa3(0,1,2,4,5,πa4(0,1,2,5,7,8,9a5(0,;,6,7,9a6(3,4",
   ",5,6,8,9a7(ba8(ba9(1,2,4,5,6,8h6(0(0,1,2,3,4,6,8,9a1(ba2(0,1,2,3,4,πa3(4,7,8a4(0,2,3,4,5,6,8,9a",
   "5(;,πa6(0,1,2,3,4h7(0(1 f2 B,3 D,4 j5 F,6 H,7 J,8 K,9( L,-(2 L2,3 L3,4 L4,6 L6@1(0 W,1 X,2 Y,3 ",
   "OMEGf4 ABB,5 BB,7 DDa26 EYYY,32 J|80(0,;,6,7aB(0(0(;,πa1(0,1,3,6,7a2(0,1cF,Ma2cF,Ma3cMa4,πa3(0,",
   "1,4,7,8,9a4(0,1,4,5,πa5(0,1,3,4,5,πa6(0,1,5,6,7,9a7(0,3,4,πa8(0,1,2,5,6,7h1(18,2(0,2,3a31*Ba64,",
   "71,8(0,8a91@BeIDEOG]MeB(1(0(0 Mq,2 WOMq,4 DEn,5( EQUID,F MijM.TmLIpa6(F EWjM ]Ma7(F.HE-GOA?M HE",
   "-GOATa8(F.OW,M BOia9(F COW,M BULLh2(0 WHEA?1 BisY,2 OLIVj3.PICj5 CYPnUSa3(0 OIL,1 Wkj2a4(0 BRpZ",
   "j1 GOLD,2,5 WOOL,6a5(0,1 HORN,2,3,4,7,8,9 CLO<a6(0,1,2 GiMx?3 iMOUR,4,5,πa7(0,1,2,3 Mp<,4,6 TRE",
   "j7,8,9a8(0,;,9a9(0,1 HELMETh2(2(0 FOOTSTOOL,5 BA<TUBa3(0.PEi,1u,2,3.WORD,4,6a4(0 WHEEsD CHiIO?1",
   " CHiIO?2 CHiIOT F]Mj3 WHEEL,5,6,8,9a5(1,2,3,4 Di?5,π@V^SEL B(155,2(0(ba1(ba2(1,2,πa50a305hMpOG]",
   "M B(1(2(7 KAPO,8 KqAKOa3(3 iEPf5 MnIa56 TU_2a247 DIPT|SY(LLABs B0(0(1 Df2 _,3 Pf4 Tj5 TO,6 Nf7 ",
   "D[8 f9.|1(0 U,1 PO,2.O,3 Mj4 DO,5 MO,6 Qf7 Zv2(0 ZO,1 Q[3 MU,4 Nj5 A2,6 RU,7 Rj8 [9 PU2a3(0 N[1",
   ".f2 QO,3 ]3,6 JO,7 &,8 j9 PIa4(0 W[1.[2 WO,3 A3,4 Kj5 Dj6 Jj8 NWv5(0 PU,1 DU,2 NO,3 R[4 Wf5 NU,",
   "7 Jf8.U,9 Tv6(0 Rf1 O,2 PTj5 JU,6 TA2,7 K[8 _2,9 TUa7(0 KO,1 DWj2 Pj3 M[4 Zj5 Wj6 ]2,7 Kf8 Q|8(",
   "0 Mf1 KU,5 AU,7 TW|9(0 DWO,1 TWOhMBOL B0(1(8,9a22,34,4(7,9a56,6(3,4a79,8(2,3,6,9)))@K(=,y PAPnC",
   "LIPShp FACjPSc&CKa]t,SUeδAc|BfC*HvD*ZvEcUaFfG*HvH*Hv[JfK*HvLfMfN*GvOc|P*HvS*HvT*HfpEeMYAeBO,CYf",
   "JEU,Nf&aNA POaS*HAhUcjHaWfXfY*HvZ*HAhPUNCTUA&peCOMMfFULL.TOPhVRE TOURNOISt,ZiDaLAMfO(BSTn,CK!l ",
   "kK Px,~-SHIFTepjZnOhGICmeqD!leDO(T +jUBseOVnBi,UNDnBihζ DASH,MIDDs.TEM,UNDnBihORceOVnLAPP~ LOGI",
   "Cm qD,leDO(T +jUBseOVnBi,UNDnBihζ DASH,MIDDs.TEM)@LLIPOP,NGeD:SH F_M sFT MEMBn OF ω ψ,IVISIp,RU",
   "MasFT(eRrei_W,ωuaTACKaμei_W!F_M Biaωu!F_M BiaSQUIGGsuhRr( TACK,μei_W!F_M Biaωu!F_M BiaSQUIGGsu@",
   "T(Ip BOTTLjUSaUDLY CRY~ FACjVEeHOTEL,sTTnaW(eASTnISK,B:TTnY,RrN^S=aω PRIME QUOTA&p>,KAVYKA!lυaL",
   "k|neBLADE.CISSORS,FIVE ErHS BLOCK,HmFeBLOCK,CIRCLjkVnSE WHITE CIRCLjMyIUM.HAD|sFTeB(mLPOkT Px,L",
   "OCK DIAGpmeLOWn ξsFT TO LOWneCxTRjRraUPPneCxTRE TOeLOWneξRr,RraUPPn ξRrasFT TOeLOWneCxTRjξRraUP",
   "Pn ξRraξsFT TO LOWneCxTRjξRr,Rr)@C]Yp,FOUNTAk Px,P:kTBRUSH,xCILaQUADRqT CIRCULi iC,SEMICIRCULi ",
   "q&CLOCKWISEu,TRIqG(LjULi MyIUM.HADEhpEeErH BLOCK,QUiTn BLOCKaRreBLOCK DIAGpmeLOWneCxTRE TOeLOWn",
   " ξRr,UPPneξRr,RrhsFT TOeLOWn ξRr,UPPneCxTRjξRrhξsFT TO UPPneCxTRjξRr,RrhUPPn ξsFT TO UPPneCxTRj",
   "RrhCORNn l DO?D_P-SHADOWy WHITE.QUijPxCIL,QUADRqT CIRCULi iC,S(EMICIRCULi CLOCKWISEu,HADOWy WHI",
   "TEeCIRCLjSQUiEhTRIqG(LjULi MyIUM.HADEhSEVx ErHS BLOCK,T(HREEeErHS BLOCK,QUiTnS BLOCKaRIqGULi pE",
   " QUiTn BLOCK@ZxGE!DIVIDy BY ζ RUshR(j[M,OaU(GGAGjNGSaY(CIq δAcNaBcHaD,EcNaG,H,[J,KcKaL,McMaNcNa",
   "P,Q,R,S,TcH,TaU,W,X,ZaDIqeδAcNaB,C,D,EcNaF,G,[K,LcYaM,NcNaO,Q,R,ScSaTcTaU,V,YaTRIqGULi>a~ FACE)",
   ")"]

def charNamesM : List String :=
  ["M:(CRp,G(jIC WqD,NETaH:JqIeABBREVIA&pt,L(ETTnefB*HvC*HvD*D*HvHvjG*HvHf[J*HvK*HvLfMfN*NfYvO,P*Hv",
   "R*RvSfT*HfT*HAhU,VvIGATURE.HRIaS(EC&p>,IGN NUKTAhJpG &seAUTUMN,BA(CK,MBOOaCHRYSq<EMUM,E:ST WkD,",
   "r OFeBAMBOOS,C(HiACTnS,IRCsS@F(IVE OFeBAMBOOS,C(HiACTnS,IRCsShOUR OFeBAMBOOS,C(HiACTnS,IRCsS@GR",
   "Ex D]Gp,JOKn,N(kE OFeBAMBOOS,C(HiACTnS,IRCsShOR< WkDaO(NE OFeBAMBOOS,C(HiACTnS,IRCsShRCHIDaPLUM",
   ",Ry D]Gp,S(EVx OFeBAMBOOS,C(HiACTnS,IRCsShIX OFeBAMBOOS,C(HiACTnS,IRCsShOU< WkD,PR~,UMMnaT(HREE",
   " OFeBAMBOOS,C(HiACTnS,IRCsShWO OFeBAMBOOS,C(HiACTnS,IRCsS@W(^T WkD,HITE D]Gp,kTn@KASieqGKfxD OF",
   ".EC&p,δfBfCfDfGfJfKfLfMfN*GfYvPfRfSfTfVfYvPASSIMBqG,VOWELtej[O,UhL:YmAMeAU sNG<>,D:TE>,daZnOhF]",
   "C&pepEeErH,F(IF<,OR&E<aHmF,pE-HUNDRy-qD-SIX&E<,QUiTn,SIXTEx<,T(x<,Wx&E<h<REEeErIE<S,QUiTnS,SIXT",
   "Ex<S,TWx&E<ShδAcf[RCHAIC I[UaB*HvC*H*ILLUeK,LcLcLhM,NcNaRR,Y@D*D*HvHfOT REPHaEc|G*HvHfIcIaJ*HvK",
   "*HvL*L*LAhMfN*GfN*NvYvOcOaP*HvR*RvS*HfSvT*HfT*HfTAhUcUaV*yIC qUSVifρ@YvNUMBnepEεaTxaSIGNeA(NUSV",
   "ifVAG]HvC(qD]BkDU,IRCULi VI]MfOMBk~ qUSViA +|PifV(n&Cm Bi VI]MfI(]MfSiGA@VOWELteA*[UaEc|IcIaOcO",
   "aUcUaVρ)@EeqD FEMmEt,SIGN,l.T_KEeqD MmE qD FEMmEt,SIGNhT^E C_SSaMMO<,NceqD WOMq HOLD~ HqDS,DqC~",
   ",keBUSk^S.UIT sVITAT~,TUXyOaleGUA PI MAO,TURBqhATt,DAICeAFFRICA&p>,GEMkA&p>,δA(B,D,G,H,k,KcSvL,",
   "M,N,P,Q,R,ScH,ZaTcTaZaDUSHxNfHmQfI(N,TaKAD,USHxNvPUNCTUA&p,VOCmIZA&p>aGO,ICHAEqeABBREVIA&p>e+jz",
   "aδA:Yk,sPH,YkaB(E<,HE<aD(mE<,HAMyHaFjG(HIMEL,IMELaHEc<aJ:Yk,HAYkaK:PH,HAPHaLAMyH,MEM,NUN,PjQ(HO",
   "PH,OPHaR^H,S:(DHjMEKHaHk,SHkaT:W,E<,HAMyHaWAW,X:PH,OPHaYODH,Z:Yk,HAYkhNUMBneFIVjpE!HUNDRyaT(x,W",
   "xTYhPUNCTUA&peDO(T!lkυaUBsυ lkυaFsURp,LkE FILLn,STi,TWOυSaSIGN UDaS.HOjTELPIECE CLOCK,Um WHEELC",
   "HAIRaP(= FOR LrHOUSjs sAFaR(CHxeHEAD>,δ-ffBfC*HvD*ZvGfHfJfK*HvLfMfN*GfYvP*HvRfS*HvT*HfS*HAhWfYf",
   "Z*HAhMiK.HAD,S(IGNeqUSVifCqD]BkDUaUBJOky δfBfC*HvD*ZvGfHfJfK*HvLfMfN*GfYvP*HvRfS*HvT*HfS*HAhWfY",
   "fZ*HA@VOWELteAfj[O,UhRIAGE=,&m iTS UNIFORMaS(iAM GpDIeDdaZnOaδAcf[UaB*HvC*HvD*D*HvHvjG*HvHfIcIa",
   "J*HfNYvK*HfSSvL*LvMfN*GfNfYvO,P*HvRfS*HfSvT*HfRfT*HAhUcUaVfYvR:-KifEPHvSIGNeqUSVifCqDRfHmqTfNUK",
   "TfVISiGvV(I]MfOWELteA*[UajIcIaO,UcUaVOCmIC R@CULkE ORDkm kDICATOR,K WORK=,U>aT(E DRkK,HEMA&CmeB",
   "OLDeCAPITmeAcLPHvBcETvCcHIaDcELTfIGAMMvEcPSILp,TvF,GcAMMvH,αA!SYMBOLhUcPSILpaV,W,XcIaY,ZcETAhDd",
   "aZnOaEPSILp=,F]KTUReCAPITm$aSMmL$hITmICeCAPITmeAcLPHvBcETvCcHIaDcELTvEcPSILp,TvF,GcAMMvH,αA!SYM",
   "BOLhUcPSILpaV,W,XcIaY,ZcETAhEPSILp=,KAPPA=,NABLfP(i&m DIFFnx&m,HI=,I=aRHO=,SMmLeAcLPHvBcETvCcHI",
   "aDcELTvEcPSILp,TvFckm.IGMvGcAMMvH,αvUcPSILpaV,W,XcIaY,ZcETAh<ETA=aKAPPA=,NABLfP(i&m DIFFnx&m,HI",
   "=,I=aRHO=,S(CRIPTeCAPITm$aSMmL$hMmLeAcLPHvBcETvCcHIaDcELTfIGAMMvEcPSILp,TvFckm.IGMvGcAMMvH,αvUc",
   "PSILpaV,W,XcIaY,ZcETA@<ETA=aω-STRUCKeCAPITmefB,D,jF,G,[J,K,L,M,O,S,?U,V,W,X,YaDdaZnOaSMmL$hF(mL",
   "~ DIAGpm,]KTUReCAPITmefB,D,jF,G,J,K,L,M,N,O,P,Q,S,?U,V,W,X,YaSMmL$@ITmICeCAPITmeAcLPHvBcETvCcHI",
   "aDcELTvEcPSILp,TvF,GcAMMvH,αA!SYMBOLhUcPSILpaV,W,XcIaY,ZcETAhEPSILp=,KAPPA=,NABLfP(i&m DIFFnx&m",
   ",HI=,I=aRHO=,SMmLeAcLPHvBcETvCcHIaDcELTfOTsSSe[JhEcPSILp,TvFckm.IGMvGcAMMvαvUcPSILpaV,W,XcIaY,Z",
   "cETAh<ETA=asFTeqGsθ?ω qGsθ?FLATTxy Pix<^IS,WHITEeSQUiEθ?TORTOISE.HELLθThMpOSPACEeCAPITm$aDdaZnO",
   "aSMmL$hRI(GHTeqGsθ?ω qGsθ?FLATTxy Pix<^IS,WHITEeSQUiEθ?TORTOISE.HELLθThS~ DIAGpmaS(qS-SnIFeBOLD",
   "eCAPITmeAcLPHvBcETvCcHIaDcELTvEcPSILp,TvF,GcAMMvH,αA!SYMBOLhUcPSILpaV,W,XcIaY,ZcETAhDdaZnOaEPSI",
   "Lp=,ITmICeCAPITmeAcLPHvBcETvCcHIaDcELTvEcPSILp,TvF,GcAMMvH,αA!SYMBOLhUcPSILpaV,W,XcIaY,ZcETAhEP",
   "SILp=,KAPPA=,NABLfP(i&m DIFFnx&m,HI=,I=aRHO=,SMmLeAcLPHvBcETvCcHIaDcELTvEcPSILp,TvFckm.IGMvGcAM",
   "MvH,αvUcPSILpaV,W,XcIaY,ZcETAh<ETA=aKAPPA=,NABLfP(i&m DIFFnx&m,HI=,I=aRHO=,SMmLeAcLPHvBcETvCcHI",
   "aDcELTvEcPSILp,TvFckm.IGMvGcAMMvH,αvUcPSILpaV,W,XcIaY,ZcETAh<ETA=aCAPITm$aDdaZnOaITmICeCAPITm$a",
   "SMmL$hSMmL$hCRIPTeCAPITmefC,D,G,J,K,N,O,P,Q,S,?U,V,W,X,Y,ZaSMmLefB,C,D,F,H,[J,K,L,M,N,P,Q,R,S,?",
   "U,V,W,X,Y,Z))@XIMIZjYq NUMnmeE(rcExasVxaF(I(FTEx,V|OURcTExhNkEcTExapjS(EVxcTExaIXcTExhT(x,H(IRT",
   "Ex,RE|W(ELVjOhZnOhE:(SURyeqGsceOPx~ sF?l OPx iM xD~ ku POkT~eDOWN qDesF?RrasFT qDeDOWN,UPaRr qD",
   "eDOWN,UPaUP qDesF?Rr)@BY,Rr qGs lυaT p Bp|CHqICmeiM,sGaD(EFAIDRkeC:PITm δAc[&UaB,C,D,jF,G,HcPa[",
   "J,KcPaL,M,NcG,YaOc|P,Q,R,S,?U,V,W,X,YcUaZaOMMvDIGITeEr,F(IVjOURaNkjpE!mTnNATEgaS(EVx,IXaT(HREE!",
   "mTnNATEgaWO!mTnNATEghZnOaEXCLAMA&p OH,FULL.TOP,NUMBneE(rEx,sVxaF(IFTEx,OURTExaNkETEx,S(EVxTEx,I",
   "XTExaT(x,HIRTEx,WELVEhS(MmL δAc[&UaB,C,D,jF,G,HcPa[J,KcPaL,M,NcG,YaOc|P,Q,R,S,?U,V,W,X,YcUaZaYM",
   "BOL AIVAhI(EVmeCOMMfEXCLAMA&p>,QU^&p>aUMeB(LACK CIRCLjOLD WHITE CIRCsaErePOkTy τ.Ti,SPOKy ASTnI",
   "SKaF(IVE.POKy ASTnISK,LATTxyesFT Pix<^IS ORNAMx?Rr Pix<^IS ORNAMxTaOUR POkTyeτ.Ti,PkWHEEL.TihGR",
   "EEK C_SS,sFT(eCURLYθT ORNAMx?Pix<^IS ORNAMxTa-POkT~ qGsθT ORNAMxTaMA<EMA&Cm.PACjRr(eCURLYθT ORN",
   "AMx?Pix<^IS ORNAMxTa-POkT~ qGsθT ORNAMxTaS(m&RjHADjIXePOkTy τ.Ti,SPOKy ASTnISKaMmL WHITE CIRCsa",
   "<REE POkTyeτ.Ti,PkWHEEL.Tiaψ Bi,WHITEeCIRCLjSQUiE)@ETEI MAYEKeA(HqG KHUDAM,NJ[PUN IYEKaCHEIKH(q",
   ",EIaDdaZnOaL(ETTneA&YfB*HAMaCH*ILaD(D*HvHOU,ILajG(HOU,OKaHUK,I!LpSUMaJ(HAM,ILaK(HOU,OK!LpSUMhLA",
   "I!LpSUMaMIT!LpSUMaN:!LpSUMaGOU!LpSUMaNfYvO,P:!LpSUMaHAMa][S:M,HfSvT(HOU,IL!LpSUMaT*HAhUN,WA[YqG",
   "aUM IYEKaSYLLABs REPE&&p>,V(I]MfOWELteA:([UaNAP,UaCHEkAP,I([NAPaNUNG,pAP,SOUNAP,U(NAP,UaVISiGfY",
   "xAPhWORD REPE&&p>aL(p,T~ FAC|MO,N(DE KIKAKUIeCOMBk~ NUMBneHUNDRy( <OUSqDS,SaMILLIpS,T(E(xS,N( <",
   "OUSqDS,ShHOUSqDShDdhSYLLABs M(0(0(1 K[2 Kf3 KU,4 W[5 Wf6 WU,7 Mk,8 Mq,9 MUNa1(0 B[1 Bf2 BU,3 [4",
   " f5 U,6 D[7 Df8 DU,9.Ia2(0.f1.U,2 &,3 Tf4 TU,5 L[6 Lf7 LU,8 J[9 Jv3(0 JU,1 Y[2 Yf3 YU,4 F[5 Ff6",
   " FU,7 Nk,8 Nq,9 NUNa4(0 HEj1 Hf2 HOO,3 NGGf4 KPEj5 WO,6 HUq,7 MBEj8 KO,9 WVv5(0 PU,1 Pj2 Hx,3 H",
   "k,4 LOO,5 Tj6 GBf7 NGp,8 NYq,9 Mxa6(0 NYp,1 WV[2 MBf3 JO,4 NDO,5 KEj6 PO,7 NDOO,8 P[9 TOa7(0 GB",
   "O,1 GBOO,2 MBj3 Lj4 KPU,5 Fj6 KOO,7 VO,8 FEj9.Oa8(0 Yj1 PEj2 NGGU,3 HEE[4 sj5 Vj6 LpG NGGj7 HUN",
   ",8 FO,9 DE|9(0 NGG[1 TEj2 KPf3 GBEj4 Mp,5 Kj6 Hj7 Bj8 NYx,9 PAh1(0(0 j1 Fq,2 POO,3 BOO,4 TOO,5 ",
   "LpG MBOO,6 LpG NGGOO,7 GBj8 KPj9 YE|1(0 LpG Lj1 Gf2 KPOO,3 Jj4 WOO,5 NGGEj6.j7 Nx,8 Wj9 ND|2(0 ",
   "NGGO,1 YO,2 MBU,3 ND[4 GB[5 NDU,6 WEj7 NGGUf8 HOOU,9 NDv3(0 Hq,1 k,2 KP[3 FOO,4 NJOO,5 k,6.OO,7",
   " E[8 BO,9 WV|4(0 HO,1 YOO,2 LpG MBO,3 WE[4 VOO,5 MB[6 NGGj7 O,8 GBU,9 NJE|5(0 BEj1 VU,2 NJf3 LO",
   ",4 MUq,5 G[6 NGGOO,7 JEj8 KPO,9 NGGAv6(0 JOO,1 LpG MBj2.Ej3 Ej4 NYk,5 OO,6 GUE[7 GUq,8 GU,9 Npa",
   "7(0 NYUN,1 Rf2 MBOO,3 VEj4 MBO,5 LpG JO,6 H[7 NGUq,8 x,9 KUv8(0 DOO,1 DO,2 V[3 LpG NGGO,4 NGx,5",
   " Vf6 HU,7 MBUU,8 MBEj9 MUxa9(0 GEj1 NDEj2 NJU,3 Hp,4 WU[5 q,6.If7 FUA)@O]H l NkE BRqCH^,S=aR(CU",
   "RY,OI&CeCURSIVEeF]C&peE(r TWELF<S,sVx TWELF<SaF(IVE TWELF<S,OUR TWELF<SaNkE TWELF<S,pEeHmF,TWEL",
   "F<aS(EVx TWELF<S,IX TWELF<SaT(x TWELF<S,HREE TWELF<S,WO TWELF<ShL(ETTneAcRCHAIC.vBfDfjHHf[K*HvL",
   "fMfN*|O,PfQfRfS*|T*jOaWfYvOGOG]MeIMN,RMThNUMBneErceHUNDRy!<OUSqDa<OUSqDaY <OUSqDaF(I(FTY!<OUSqD",
   "aVEceHUNDRy!<OUSqDa<OUSqD@O(RTY!<OUSqDaURceHUNDRy!<OUSqDa<OUSqD)@NkEceHUNDRy!<OUSqDa<OUSqDaTY <",
   "OUSqDapEceHUNDRy!<OUSqDa<OUSqDhS(EVxceHUNDRy!<OUSqDa<OUSqDaTY!<OUSqDhIXceHUNDRy!<OUSqDa<OUSqDaT",
   "Y!<OUSqD@T(x!<OUSqDaH(IRTY!<OUSqDaREEceHUNDRy!<OUSqDa<OUSqD@W(xTY!<OUSqDaOceHUNDRy!<OUSqDa<OUSq",
   "D)))@HInOGLYPHICeδfBAc-2aDfjHHf[K*HvLfMfN:c-2aEc-2hO,PfQf]c-2aS:c-2a|T:c-2aEc-2aOaWfYvSYMBOL VI",
   "DJc-2@PnSpaSSAGE WAIT~,TR(ICmeBREVjLpG OVneSHOR?TWO.HORTSaPxTASEMjSHORT OVn LpG,T(ET]SEMjRISEMj",
   "WO.HORTSeJOky,OVn LpG@OhI:OeδA(H,RCHAICeMfN*GvZZAhB*RIaD*DfLH*YvZ*HfY[ZAhFfG*H*HAhH*HvKfL*H*YvY",
   "vM*HvN:cSmIZA&paG*HvHfN*HvY*HAhP*LvQ*GvR(EFORMy T(pE-(1,2,4,5,6,8aSHvT|S*HfSfYIaT*jLH*YvpE-(2,3",
   ",4,5,6,7,8aS*jHfSvTvV*FvWfXfYIeDZHfKfNNfPfT*S*HvTAhZ*HfS*HvZ*S*YvYA@SIGNeASPI]&p,CpSpqT MODIFIn",
   " Bi,REFORMyeASPI]&p,VOIC~hTpEe+jz,Rr,TOP RraVOWELteAcfEc|HH,[NcGaUaEcf[NcGaRcRhIcAcNcGhjG,[NG,O",
   "cNGaUaNcGaOcE(R,YaG,O,Ua_UNDy ncRaUcAcNcGhE[[NG,OG,UaVW,WcOaYc[UI@CR(eDASH=,p US=aO(t,BjPHpjSCO",
   "PEhD(DseDO?<IRD WHITE Rr POkT~ kDEXaLkE ζ ELLIPSISaL(ITiYeHELME?MymaKY WAY,LtaN(I(BUS,DISC,MIZ|",
   "US(eSIGNcek TRIqGLjleCOMMA +jDOT z,FmL~υS,RIS~υS@&LD|-OR-PLUStaYaR_R!BmLhMSP,O(BIs PHpEceOFF,l ",
   "Rrμu AT sFThD(E(LS,RN PxTA<LpaI(eABBREVIA&pt,D(qDfdaZnOaOUBs DqDvδAcf[κvL*LvMfN*GfNfYvO,P*HvRfS",
   "*HfSvT*HfT*HAhUcUaV*ρ@YvSIGNeA(NUSVifRDHACqDRvHUVfVI(]MfSiGAhVOWELteA*[UajIcIaO,UcUaVρ)@FIneBRE",
   "VE l kVnTy BREVjδA(CUTE ACCx?LVEOLi CLICK,POST_PH|B(EGkeHIGH TpjLOW Tp|ILABIm CLICKaC:PITmeAc|B",
   "ciRy BaC,D,jF,G,H!l.T_K|[J,K,L,M,N,OcUaP,Q,RcEVnSyejNh?U,V,WaxTRyesFT HmF R~,Rr HmF R~aHk^E TpE",
   " Y(qGeP~,QU,RU,SHqGakeP~,QU,RU,SHqGhIRCUMFsX ACCx?OLp,_SS ACCx?YRILLICex,HiDt,SOFTthD(xTm CLICK",
   ",O(Teζ Bi,SLASH,ψ BiaUBseAPOST_PHjPRIM|WNei_WHEAD,TACK@E(NDeHIGH TpjLOW Tp|XT]-(HIGHeDOTTyesFT-",
   "STEM TpE Bi,TpE BiasFT-STEM TpE Bi,TpE BiaLOWeDOTTyesFT-STEM TpE Bi,TpE BiasFT-STEM TpE Bi,TpE ",
   "Bi@G(EORGIq Ni,LOTTm.TOP!l.T_K|]VE ACCxTaH(mF TRIqGULi COLp,IGHeDOTTyesFT-STEM TpE Bi,TpE BiasF",
   "T-STEM TpE Bi,TpE BihL:Tnm CLICK,EFTei_WHEAD,HmF R~,TACKaOW(eACUTE ACCx?CIRCUMFsX ACCx?DO(TTyes",
   "FT-STEM TpE Bi,TpE BiaWNuHEADaG]VE ACCx?kVnTy EXCLAMA&p>,sFT(ucHEADa-STEM TpE BiaMACRp,RI(GHTuH",
   "EAD,NGaT(ILDjpE BiaUPuHEAD,ψ Lk|n Rr CORNn qGshM:CRp,I(D(eDOTTyesFT-STEM TpE Bi,TpE BiasFT-STEM",
   " TpE Bi,TpE BiaDseωeACUTE ACCx?G]VE ACCxTaG]VE ACCxThNUSthOPx.HELF,P(LUSt,RIM|R:ISyeCOLp,DOWNu,",
   "EXCLAMA&p>,kVnTy EXCLAMA&p>,UPuaE(T_FsX CLICK l RET_FsX λ,VnSyeCOMMfGLOTTm.TOP!l.T_KE@HO&C λ,re",
   "i_WHEAD,HmF R~,TACKhS(H(ELF,ORT EQUmStaMmLeAcjk,LPHvB!l λ,iRy O,ETfOTTOM HmF OaC!l CURL,APITmeA",
   "fB,G!l λaH,I!l.T_KjNVnTy RaL!l BELTaN,OjR,U,YaH[LOSyeOMEGfREVnSy OPx EhD!leλ!qD TAILaTAILaE(LTf",
   "ZH DIG]PHaOTsSS J l.T_KE!qD λaZ DIG]PH!leCURL,RET_FsX λ@EcNG,SH,<,ZHaFcxG DIG]PHaG!l λ,AMMfREEK",
   "eGAMMfPHIhH!leλ,ST_K|xG!l λhI( l.T_KjOTvJ!l C_SSy-TAILaK,L!leBEL?kVnTy LAZY.,ξ&LDjPmATm λ,RET_F",
   "sX λ!qD BELThEZH!l RET_FsX λaIGATURE OjS DIG]PH,Z DIG]PHaM!l λaN lesFT λ,RET_FsX λaO!l.T_KjPxej",
   "OhPcHIaQ,R!leFISHλ,TAILaAMS HORN,EVnSyejGLOTTm.TOP,OPx EhS!leCURL,λaC(HWfRIPT GaIDEWAYS UaT!leP",
   "mATm λ,RET_FsX λaC DIG]PH l CURL,^H DIG]PH,HETfOP HmF O,S DIG]PH!l RET_FsX λaURNyeAcjLPHvH,[M!l",
   " LpG sGaOPx jR!leλ,LpG sG!qD RET_FsX λ@V,W,Y!l BELT@UceBi,l sFT λaPSILpaV!leλ,Rr λhW,X,Y,Z!leCU",
   "RL,RET_FsX λ@TR^S qDeHIGH TpjLOW Tp|UPnSCRIPTeHmF TRIqGULi COLp,TRIqGULi COLphT(RIqGULi COLp,UR",
   "Ny COMMvU(NASPI]Ty,Pei_WHEAD,TACKaSaV(n&Cm LkjOIC~aY(qG DEPiT~ TpE>,k DEPiT~ TpE>)@ULO TWO.UMaN",
   "(EY(eBAG,l W~Sa-MOU< FAC|GOLIqeBIRGA!leω ORNAMx?ORNAMxThCO(Lp,MMvD(daZnOaOUBs BIRGA l ORNAMxTaE",
   "LLIPSIS,F(OURυS,REE ViIA&p.EsCTOReFOUR,pjT(HREjWOhULL.TOPakVnTy BIRGA!l ω ORNAMxTaδAcLI GmIeAcH",
   ",NUSViA p|BmUDfCfD:cGmGfMiUaDvHmFeU,YvIcNVnTy UBADAMvKfN(GfNvP*HvSSfT*HREE BmUDfT*HAhUBADAMfVIS",
   "iGA pjZ*HAhNGaBfCH:!l TWOυSaIaDfEc|FfGfHAf[JfK*HvL*HvMAcNCHUemI GmIeBHfC*YvD(DHfHvGHfJHfLHfNGfS",
   "SfT*TvZ*HAhFf[KfRfZHAhNfOc|PfQfRfS*HfIBEeqG,CHfDfjFfGAcvHAcvIcYaJfKfPf]fSHfT*SvUc|Z*HA@T*ODOeA(",
   "LI GmIeTfZHvNGaBfCHfD*ZvjGAcvHAf[J*IvKfLpG VOWELt,MfNIfOc|PfQfT*SvUc|WfYvSvUc|WfYfZ*H[]hMqCHUeC",
   "OMMfFULL.TOPaNIRUGU,_TATy BIRGA!leω ORNAMx?ORNAMxThS(IBE.YLLABs BOUNDiY>n,WIRL BIRGA!leω ORNAMx",
   "?ORNAMxT@T(ODO.OFT HYPHx,RIPs BIRGA l ORNAMx?URNy.WIRL BIRGA l ω ORNAMxTaVOWEL.EPiATORaKEY!FAC|",
   "O(G]M FOReEi<,Y(qG,kh]IL,STABs=hO(D BUBBLjNeCAKjVIEW~ CnEMpYhSQU(jITOaT(Hn CHRISTMAS,OR(eBOA?SC",
   "OOTnaIZy WHEELCHAIR,WAYhU(NT( FUJ[AkceBICYCLIS?CABsWAY,]ILWAY@SEceFACjT]Ph<aVIE CAMnfYAIa_eD(qD",
   "fdaZnOaOUBs DqDvδfBfCHU,DAcIaEcvHA([OaK(EAAjHA[OaLAcNaM:EM,IMaN(G[kaOcL,OaP*HIaR([OaSH[T*EK,HEv",
   "WfYOhU(CHeGREATn-<q,sSS-<qaLT(qIeδfB*HvC*HvD*D*DfHvHvjG*HvHf[J*JvK*HvLfMfN*NfYvP*HvR*HfRvSfT*Hf",
   "T*HAhU,VfYvSEC&p>aI(MAP,PL(E MUSICm NOT^,ICA&peSIGNcekeω CIRCLjsFT HmF CIRCLjRr HmF CIRCLjTRIqG",
   "saleDOT +jUNDnBi@XhSETceMUL&PLICA&p,UNIp)@S(H_OM,IC(eFLATt,NATURmt,SHiPtameKEYBOiD!l JACKSaNOTj",
   "S(CORjYMBOLeiPEGGIATOeDOWN,UPaB(EGkeBEAM,PH]SjSLUR,&|R:C(jKETaE:<>,V(jIS!R^T))@C( CsF,A^URfIRCs",
   " X NOTEHEAD,L(I(MACUS,VISaUSTn NOTEHEADeτ,WHITEhO(DfM(Bk~eA(CCxTc-STACCATOaUGMxTA&pυaBxD,DO(I?U",
   "Bs TpGUjWN BOWaFL:G-(;aIPaHiMpIC,LOURjMiCATOc-STACCATOaRIP,S(MEi,NAP PIZZICATO,PRECHG^qG.TEM,T:",
   "CCAT(ISSIMO,OaEMhT(xUTO,R(EMOLO-(1,2,3aIPs TpGUEhUP BOWaMp &MEhR(^CxDO,OIXaUT &M|D:( CAPO,L.EGN",
   "O,MP!mLaSHy BiLk|E(CR^CxDO,GREE.LASHaOUBseBiLkjFLA?SHiPaRUM CsF-(1,2hE(rHeNOTjR^TaNDeBEAM,OF.&M",
   "MjPH]SjSLUR,&EhF( CsF!OTTAVAemTfBASSAhnMATA!zaI(N(m BiLkjGny TREMOLO-(1,2,3hVE-LkE.TAFFaLATeDOW",
   "N,UPaO(RTjUR-(LkE.TAFF,STR~ FRETBOiDhUSAeτ,WHITEhG( CsF!OTTAVAemTfBASSAhLISSqDOeDOWN,UPaR:CE NO",
   "TEeNO.LASH,SLASHaEGORIqeC CsF,F CsF@HA(LFeNOTjPym>,R^TaUPTS&MM|kVnTy TURN,K(IEVqeC CsF,E(rH NOT",
   "E.TEMeDOWN,UPaND OF PIEC|F(km NOTjLATtaHmF NOTjQUiTn NOTE.TEMeDOWN,UPaRECITA&VE>,WHOs NOT|ORpaL",
   "(EFT REPEATt,pGAceIMPnFECTA R^?PnFECTA R^T@M:XIMfEZZO,kIMAceτ,R^ThOp NOTEHEADeτ,WHIT|UL&( R^?Ps",
   " MEASURE R^ThN:TURmeDOWN,UPaEBxS&MMjOTEHEAD τ,ULL NOTEHEADaO(NE( HUNDRy TWxTY-ErHeNOTjR^Ta-LkE.",
   "TAFFaRNAMxT.T_KE-(1c0,1a2,3,4,5,πaTTAVAemTfBASSAhP(ix<^IS NOTEHEAD,E(DmeMiK,UP>aS.UBPUNC&SaIqO,",
   "LUS NOTEHEAD,O(DATUS,RRECTUS!FsXUS@QU(iTneNOTjR^?TpEeFLA?SHiPhkDIC^IMAemTfBASSAhR(E(PEAT(υS,y F",
   "IGURE-(1,2,3hVnSE Fkm BiLk|I(GHT REPEATt,NFORZqDOhS(CqDICUS!FsXUSaE(GNO,MI(BREVISeτ,R^?WHIT|MkI",
   "MAeτ,R^?WHITE@H(iPeDOWN,UPaORT BiLk|I(NGs BiLkjX(-(LkE.TAFF,STR~ FRETBOiDaT(Ex<eNOTjR^TaY-FOUR<",
   "eNOTjR^T)@OR[QUiEeB,NOTEHEADeτ,WHITEhUBITOaT(EMPUSeIMPnFECTUM CUM P_LA&pEeIMPnFECTA!DIMkU&p-(1,",
   "2,3hPnFECTvPnFECTUM CUM P_LA&pEeIMPnFECTfPnFECTA!DIMkU&p-1@H(IRTY-SECpDeNOTjR^TaREE-LkE.TAFFaOR",
   "CULUS!R^UPkUSaRcIqGs( NOTEHEADeDOWNeτ,WHIT|sFTeτ,WHIT|Rreτ,WHIT|UPeτ,Rreτ,WHIT|WHITEh-_UND NOTE",
   "HEAD DOWNeτ,WHITE@URNceSLASH,UPhWO-LkE.TAFFaV(IRGfOID NOTEHEADaW(HOseNOTjR^TaI< F~nNAILSaX NOTE",
   "HEAD,Z)))@VS,W,YqMieCpSpqTteM(yImeHfRfWfYvp MyImeLfMfNAhSHq MyIm WvDdaZnOaL(ETTneAcITp RfUaB*Hv",
   "C*HvD*D*HvHvEcASTnN PWO KixeGHWfNNfYWAhG*HfREAT.vHfIcIaJ*HvK*HAcM&eC*HvD(D*HvHvFfGfH*HvJ*HvLLfN",
   "*YvRfSfTT*HvXfZA@L*LvM*peBB*|jJHfNGAhN*GfN*YvYvO,P*HvR*UMAI PmAUNG FvS*GAW Kix.HfH:cNefB*HvC*Hv",
   "DfFfG*HvHfJHfK*HvN*NfYvPHf<fZAhWE PmAUNGeCHfSHAhSvT:cI LA~eB*HvD*D*HvHvFfG*HvJ*HvLLfN(NfYA@HfT*",
   "HAhUcUaVρhW*^TnN PWO KixePWf<AhYvOGOG]M KHAM&eHM,OAY,QNhMODIFIn δKHAM& RyUPLICA&p,SHq RyUPLICA&",
   "paS(Hq DdaZnOaIGNeA(NUSVifSATaDOT z,KHAM& TpE-(1,3aLITTs.EC&p,PAO Kix TpjRUMAI PmAUNG TpE-5,S(E",
   "C&p,HqeCOUNCILeEMPHA&C TpjTpE-(2,3hSAW,TpE-(2,3,5,6@TAI LA~ TpE-(2,5aVI(]MfSiGvW^TnN PWO Kix Tp",
   "E-(;hYMBOLeA(FOREMx&py,ITpeEXCLAMA&p,pjTWOhCOMPsTy,GxI&VjLOCA&VjSHqeEXCLAMA&p,pE@T:I LA~ DdaZnO",
   "apE>.GAW KixeHA<[KE PHOhVOWELteA*IcTp AcI@E!+|GEBA Kix [IcIaKAYAHeEjOjUaMpeI[OaS(GAW Kix EU,Hqe",
   "AfE!+|Fkm YhTmL AfUcUaVρhW^TnN PWO KixeEU,UE))))"]

end ScriptLint.Text
