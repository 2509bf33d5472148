/-!
# Names of characters, A to C

The names are written as trees: what several names start with is written once, before a
group of what follows it.  Small letters and marks are signs for what is often repeated.
A tree is given in lines, which may end anywhere.
-/

namespace ScriptLint.Text

def charNamesA : List String :=
  ["A(BACUS,C( CURRx?CO(RDIp,UNT OFaKcNOWsDG|&VATEeiABICg.HAP~,SYMMETRIC.WAPP~aUTE A(CCx?NGshD(DR^S",
   "y TO <E.UBJEC?H^IVE BqDAGjI.HAK&,LAMemIF sNG<xn,C:PITm δmIF,B*H|CH[D:m[HvjFfG*B|Hf[JIIM,K:F,HfP",
   "OaLAAM,MIIM,N(HfUN,YvO,PjQAAF,RfS(HfkNYIIYH|TU,U,VfWAW,Y*H|ZmapSpqT MODIFInaDdaZnOaGEMkAT(E CpS",
   "pqT MODIFIn,Ip>aHAMZfkI&meEXCLAMA&p>,QU^&p>aN:SmIZA&p>,UKTvSMmL δmIF,B*H|CH[D:m[HvjFfG*B|Hf[JII",
   "M,K:F,HfPOaLAAM,MIIM,N(HfUN,YvO,PjQAAF,RfS(HfkNYIIYH|TU,U,VfWAW,Y*H|ZmaVOWEL sNG<xnaM(ETOS,ISSI",
   "p &CKETSaULTaE(GEqeCHECK>,DRY MEASURE FIRST.UBUNI?LIQUID MEASURE FIRST.UBUNI?MEASUREeSECpD.UBUN",
   "I?<IRD.UBUNITaNUMBneErcεaY!<OUSqDhF(I(FTY!<OUSqDaVEcε@O(RTY!<OUSqDaURcε)@NkEcεaTY!<OUSqDhpEcεhS",
   "(EVxcεaTY!<OUSqDhIXcεaTY!<OUSqD@T(x!<OUSqDaH(IRTY!<OUSqDaREEcε@W(xTY!<OUSqDaOcε))@W(EreBASE UNI",
   "?F(IRST.UBUNI?OUR<.UBUNITaSECpD.UBUNI?<IRD.UBUNITaORD.EPiATOReDO?LkE@RIm T]MWAYaFGHqIt,HOMeCpSp",
   "qTt MyImeL*IGAT~ RvRvDdaZnOaδAcLTnNATEeBfGfTAhB*HvC*HvD*D*HvHvG*HvHfJ*HvK*HvL*LvMfN*GfNfYvP*HvR",
   "fSfT*HfT*HA@NUMBn T(x,WxTYaS(IGNeKILLn,RULA[S(EC&p,MmL.EC&phYMBOL VIaVOWELteAcf[M,WajIcIaO,UcU@",
   "IRPLqEceiRIV~,DEPiTUREhK&^ELSKAB,L(iM CLOCK,CHEMICm= FOReA(IR,L(EMBIC,KmIc-2aUMaMmGAM,N&MpY ORj",
   "QUA(eREGIAc-2aVITAEc-2hFOR&SaRSxIC,SH^,URIPIGMxTaB:< OFeMiY,VAPOURSaISMU< ORjLACK.ULFUR,O]Xc-(2",
   ",3hRICKaC:(DUCEUS,LX,PUT MORTUUMakNABi,OPPneq&MpIATjOR|R(OCUS OFeCOPPnc-2aIRpaUCIBsc-(2,3,4,5)@",
   "D:Y-Nr,IS(SOLVEc-2a&LLhEi<,FIRjG(OLD,UMaH(mFeD]M,OUNC|O(RSE DUNG,URhIRp( OREc-2a-COPPn OR|L(EAD",
   " ORjOD^Tp|M(iCASITjnCURY.UBLIMATEc-(2,3hp<aNI(GH?TR|OIL,P(HILOSOPHnS.ULFUR,O(T ASH^,WDncy BRICK",
   "hRECIPITATjU(RIFY,TREFAC&phQUI(CK LIMjNT^SxC|R(E(mGic-2aGULUS!OFeq&MpYc-2aIRpa-(2,3,4hTORTaOCK.",
   "mTc-2hS(m(-AMMpIAC,T!OFeq&MpY,COPPn q&MpIATE@CEPTn OF JOVjILVn,OAP,PIRI?T(iRy TRIDx?]TUM.UPn.T]",
   "TUMc-2hU(BLIMAT(E OFeq&MpY,COPPn,SmT OFeq&MpY,COPPnhIpaLFURhT(iTic-2ak( ORjCTUR|RIDx?UTTYaURkjV",
   "(nDIGRIS,I(NEGi!OF q&MpY,-(2,3hTRIOLc-2@WA(Tn,XhE(F=,MBIC,RTaIx MpSTn,LeiOUND-P_FILjEQUm TOaMcO",
   "ST EQUmeOR EQUm TO,TO!l CIRCUMFsX ACCxT@TnNAT(E pE-WAY sFT WAY T]FFIC,IVE KEY=hM(mGAMA&p OR COP",
   "_DUC?BULqCjnICq FOOTBmL,P(nSqD,HO]hN:TO(LIq HInOGLYPH A(0(0(;,πa1(0cv;,πa2(0,;,6cv7,8,9a3(bcAh4",
   "(0,1cv2,3,4,5cv6cfBa7,8,9a5(ba6(0,;,6cfB,Ca7,8,9a7(ba8(ba9(0,;,6,7cv8cv9h1(0(0cv1cv2cv3,4cfB,Ca",
   "5cfBa6,7cfB,Ca8,9a1(0cfBa;cvπa2(0,;cvπa3(0,;cvπa4(ba5(ba6(ba7(ba8(ba9(bh2(0(0,1,2cfBa3,4,5,6,7c",
   "v8,9cAh1(0,;cv6cv7,8,9a2(0,;,6,7cv8,9a3(ba4(ba5(ba6(0,;,6,7cv8,9a7(ba8(bcAh9(0,1,2,3,4cv5,πcA@3",
   "(0(bcAh1(ba2(bcAh3(0,1,2*B,Ca3,4,5,6cfB,Ca7,8,9a4(ba5(bcAh6(0,1,2,3,4cv5,6,7,8cv9a7(0,1cv2,3,4,",
   "5,πa8(0,1cv2,3( ] OR R[v4,5,6cv7,8,9a9(0,1,2,3 Er,4,5,πh4(0(ba1(0( BEGk LOGOG]M>,A xD LOGOG]M>a",
   ";,πa2(ba3(ba4(ba5(0cv;,6,7cv8,9a6(ba7(ba8(ba9(0,;,6,7h5(0(;,πa1(ba2(ba30hMICm HEiTaCHOR,D l DO?",
   "G(n=,s!leS kSIDjUNDnBihRY FACjST_Mt,UISHy FAC|KH,TcxNA l BiS,ICLOCKWISEeC(LOSy CIRCsu,pTOUR kTE",
   "GRmaDOWNμ qD UPμ OPx CIRCsuS,GAPPy CIRCsu,kTEG]&p,OPx CIRCsu,T(OP.EMICIRCsu,RIqGs-HEADyeBOTTOM ",
   "U-SHAPyu,sFT U-SHAPyu,OPx CIRCsu,Rr U-SHAPyu,TOP U-SHAPyu))@P(C,L FUNC&pm=emPHA!UNDnBiaBACKSLAS",
   "H Bi,C(IRCseBACKSLASH,DIAn^IS,JO?ST(i,IsaUNDnBiaOMMA BiaD(EL(eDIAn^IS,S&Lj&LD|TAeS&LjUNDnBihIAM",
   "pD UNDnBi,OWN(eCiET &LDjSHOE.&LjTACKeJO?UNDnBihμ VqEhEPSILp UNDnBi,GREATn-<q DIAn^IS,I(-BEAM,OT",
   "A!UNDnBihJOTeDIAn^IS,UNDnBiasFT(.HOE.&Ljμ Vq|OMEGA!UNDnBiaQU:DceBACKSLASH,C(IRCLjOLpaD(ELcTvI:M",
   "pD,VID|OWN( CiE?μuhEQUm,GREATn-<q,JO?s(FTμu,SS-<qaNOT EQUm,QU^&p,Rrμu,SLASH,UP( CiE?μu@OTEeQUAD",
   ",UNDnBihR(HO,rμ Vq|S(EMICOLp UNDnBi,LASH Bi,QUISH QUAD,T(i DIAn^IS,Is &LDEh&LDE DIAn^IS,UP(eCiE",
   "T &LDjSHOE JO?TACKeDIAn^IS,JO?OVnBihμ Vq|ZILD|O(LLp,ST_PH|P(LICA&p P_G]M COMMqD,_:CH^ <E LIMI?X",
   "IMATELYeBUT NOT ACTUmLY EQUm TO,EQUmeOR EQUm TO,TO!OR <E IMAGE OF)))@QUiIUS,R:BIC(eBASELkE _UND",
   " DO?C(OMMfURLYeDAMMAcTqaFA<AcTqaKAS]cTq@D:(MMAceISOLATyg,MyImg,lυaTq!ISOLATyghTE.EPiATORaECIMm.",
   "EPiATOR,ISPUTy xD OF AYAH,OUBs( RruHEAD +E!lυaD MADDAhE(MPTY CxTREeHIGH.TOP,LOW.TOPaND OFeAYAH,",
   "TEXT>hF:<AceISOLATyg,MyImg,leDOT +jR~,TWOυShTq!ISOLATyghIVE POkTy.Ti,OOTNOTE>n,ULL.TOPaHA(LF MA",
   "DDA OVn MADDfMZAe+jzhkVnTy DAMMfKAS]ceISOLATyg,MyImg,lυ zaTq!ISOLATyghL(iGEeCIRCs z,_UNDυe+jz,k",
   "SIDE CIRCs zhE(FTuHEADe+jzaTTneA(jFRICqeFEH,NOp,QAF!l <REEυS +Ehkcγ,l T(HREEυSe+jz,POkT~ DOWNμ ",
   "+|WOυSe+jψLY +E)@sFc%,MAKSU]c%hW:SLAc%hI<eATTACHyeBOTTOM Rr KAS]!qDeDOT +jsFT R~hFA<fKASRfsFTeH",
   "AMZf_UNDυaR(reHAMZf_UNDυaOUNDυe+jzhTOP Rr FA<A!qDeDOT +jsFT R~@DOT +jEXTxDy iABIC-kDIC DIGIT T(",
   "HREE +jWO +|HAMZAe+Ec%hzc%@sFT MIDDs.T_KjMADDA +Ec%hRr MIDDs.T_KE!qDeDOT +jsFT R~hWAVY HAMZAe+j",
   "z)))@BE(EHcγhHcγ,leDOT z qD <REEυS +jHAMZA +jkVnTy.MmL V z,SMmLeMEEM +jV!zhT(HREEυSeζLY z,POkT~",
   " UPμ z!qD TWOυS +EhWOυS z qDυ +E@EHcγ)@D:(Dcγ,lυ zhHmc%hLc%,leDOT z!qD.MmL TAHaFOURυS +jkVnTyeS",
   "MmL V z,VaR~,T(HREEυSe+E DOWNμ,zaWOυS ψLY z qD.MmL TAH))@DA(Hmc%hLc%@OTsSSeBEH,FEH,QAFaULc%hYEH",
   "cγ@EcγhF(iSI YEHcγ,leEXTxDy iABIC-kDIC DIGITeFOUR z,T(HREE +jWO +EhkVnTy V,T(HREEυS +jWOυS +E)@",
   "EHcγ,leDOTez!qD <REEυS +|MOVy zaT(HREEυSez,POkT~ UPμ zaWOυS z))@G:Fcγ,lekVnTy.T_KjR~,T(HREEυS +",
   "jWOυS z)@HAkcγ,leDOT z,<REEυS +E@]F,UEHcγ@H:(Hcγ,leEXTxDy iABIC-kDIC DIGIT FOUR z,HAMZA +jkVnTy",
   ".MmL V z,SMmL iABIC sTTn TAHeA(BOVjND TWOυSazaT(HREEυSe+jPOkT~ UPμ zaWOυSe+jψ +E))@MZA!ISOLATyg",
   "hEHceDOACHASHMEEcγhFkmg,GOmcγ,l HAMZA +EhoMyImg,lekVnTy V,YEH +Ec%))@IGH HAMZAcemEF,WAW,YEH@JE(",
   "EMcγ,l T(HREEυSe+jzaWOυS +E@Hc%@K:(Fcγ,leDOTe+jzaR~,T(HREEυS z,WOυS +E)@SHMIRI YEHaEHEHcγ,leDOT",
   " +jSMmL V,T(HREEυSe+jz,POkT~ UPμ zaWOυSe+jψLY z))@HAHcγhIRGHIZeOEc%hYUc%)@L:Mcγ,leBi,DO(T +jUBs",
   " BiaSMmLeiABIC sTTn TAH +jVa<REEυSe+jz)@OW mEFaM(iK,EEMcγ,leDOTe+jza<REEυS +E)@N(GcγaOEHcγ@Opce",
   "Fkmg,GHUNNAc%hoMyImg,leDOT z,kVnTy.MmL V,R~,SMmLeTAH,VaT(HREEυS +jWOυS z)@YEHcγ@OEc%hPEHcγ,l.Mm",
   "LeMEEM +jVhEHcγ@QAFcγ,leDOTe+jz!qD NOυS +Eh<REEυS +E@R(EHc%,leDOT z!qDυ +|FOURυS +jHAMZA +jkVnT",
   "y V,LOOP,R~,S(MmLeiABIC sTTn TAH qD TWOυS,NOp +jV!zhT_K|TWOυSe+jψLY +E)@NOpcγhOH~YA YEH,REHc%@S",
   ":Dcγ,l T(HREEυSe+jzaWOυS z@Excγ,leDOT z qDυ +jEXTxDy iABIC-kDIC DIGIT FOUR +jFOURυS +jkVnTy V,S",
   "MmL iABIC sTTn TAH qD TWOυS,T(HREEυS z!qD <REEυS +|WOυS ψLY +E)@HExcγ,lυ zhT]r WAW,UPnSCRIPT mE",
   "F,WASH KAFaT:Hcγ,leDOT z,T(HREEυSe+jzaWOυS +E)@CHEHcγ,leDOT +jSMmL VhEHcγ@EHceFkmg,oM(iBUTAceFk",
   "mg,GOm,ISOLATyghyImgaleR~,SMmLeTEH +jVa<REEυS +E DOWNμhEHcγ@H(mc%hEHcγhk YEHaTEHcγ,l.MmL VaEHcγ",
   ")@Uc%,l HAMZA +E!ISOLATyghIGHUR KAZAKH KIRGHIZ mEF MAKSU]ekI&mg,MyImghVEc%aHcγ@WAWc%,leDOTe+jlk",
   "aEXTxDy iABIC-kDIC DIGIT T(HREE +jWO +|HAMZA +Ec%hR~,TWOυS +E@Y(EHceBiREEc%,leEXTxDy iABIC-kDIC",
   " DIGIT T(HREE +jWO +|HAMZA +Ec%))@Fkmg,oMyImg,leHAMZA +EcγhSMmL V,T:IL,HREEυS z,WOυS z qDeDOT +",
   "jHAMZA +jSMmL NOp +E))@Uc%@ZA(Hcγhkc%,l kVnTy V +E))@IGATUREeA(k φ%aJEEMeol MEEMeFkmg,kI&mghMEE",
   "Meoφ Fkmg,MEEMeFkmg,kI&mgaYEH FkmghYEH%hKBi ISOLATyg,L:YH:A AS-SmAAM,E ISOLATyg,I( AS-SmAA(M,TU",
   " WAS-SmAAMaM( AS-SmAAM,AA AS-SmAAM@EFeMAKSU] l.UPnSCRIPT mEF%al FA<ATq%hLAH ISOLATygaZZA WA JmL",
   "aB(EH φ%aH:Heol YEH FkmgaEHekI&mg,MyImghJEEM oKHAHeol YEH FkmgaMEEMγaNOp Fkmg,REH Fkmg,YEH%aZAk",
   " FkmgaISMILLAH i-]HMq i-]HEEMaDAD φ%aHAHeoφ Fkmg,YEH FkmghJEEM oKHAHeol MEEMeFkmg,kI&mghMEEM oR",
   "EH%aYEH%hFEH φ%aHAH oJEEM oKHAHeol MEEMeFkmg,kI&mghMEEMeol YEH FkmgaYEH%hGHAk φ%aJEEM oMEEMeoφ ",
   "Fkmg,MEEM Fkmg,YEH FkmghYEH%hH:H φ%aJEEMeol YEH FkmgaMEEMeoφ Fkmg,YEH FkmghYEH%hEH φ ISOLATyg,J",
   "EEM oMEEMeoleJEEM kI&mg,MEEM kI&mghSUPnSCRIPT mEF kI&mg,YEH ISOLATyghJ(mLAJmmOUHOU,EEM φ%aHAHeo",
   "φ Fkmg,YEH FkmghMEEMeoφ Fkmg,HAHeFkmg,kI&mgaYEH FkmghYEH%@K:F lemEF%,MAKSU]%hHAH oJEEM oKHAH oL",
   "AMγaMEEMγ,leMEEMeFkmg,kI&mgaYEH FkmghYEH%hHAH φ%aHAH ISOLATyg,JEEM oMEEM oYEH%@LAM lemEF%,MAKSU",
   "]%aleHAMZAe+E%az%hMADDA +E%@H:Heoφ Fkmg,MEEMeFkmg,kI&mgaYEH FkmghEH kI&mgaJEEMeoleJEEMeFkmg,kI&",
   "mgaMEEMeFkmg,kI&mgaYEH FkmghKHAHeol MEEMeFkmg,kI&mghMEEMγ,leHAHeFkmg,kI&mgaYEH FkmghYEH%hM(EEM ",
   "lemEFeFkmg,MAKSU] ISOLATygaHAHeoleJEEM kI&mg,MEEM kI&mg,YEH FkmghJEEMeoleHAH kI&mg,KHAH kI&mg,M",
   "EEM kI&mg,YEH FkmghKHAHeoleJEEM kI&mg,MEEM kI&mg,YEH FkmghMEEMeFkmg,ol YEH FkmgaYEH ISOLATygaOH",
   "AMMAD ISOLATygaNOp φ%aH:Heoφ Fkmg,MEEM kI&mg,YEH FkmghEHekI&mg,MyImghJEEMeoφ Fkmg,HAHeFkmg,kI&m",
   "gaMEEMeFkmg,kI&mgaYEH FkmghKHAH oMEEMγ,φ Fkmg,YEH FkmghNOp Fkmg,REH Fkmg,YEH%aZAk FkmgaQ:(F φ%a",
   "HAH oMEEMeoleHAHeFkmg,kI&mgaMEEM Fkmg,YEH FkmghYEH%hLA USy AS KORqIC.TOPt ISOLATygaUDDISA.IR]Ha",
   "R:(DI mLAAHU qHcAfU(McAvNNAhHIMAHU( mLAAH,M mLAAHaSOUL ISOLATygaEH l.UPnSCRIPT mEF ISOLATygaS:(",
   "D φ%aHAHeoleHAHeFkmg,kI&mgaYEH FkmghKHAH kI&mg,MEEMeol MEEMeFkmg,kI&mghREH%aYEH%hL::MUHU mAYNAf",
   "M ISOLATygaLA(eISOLATyg,USy AS KORqIC.TOPt ISOLATygaLLA:HU mAYHI WA-AmIH,H(OU mAYHE WASmLAM,U m",
   "AYHI WAAmIHEE WA-SmLAM))@Ex φ%aH:HeoMyImg,l JEEM kI&mgaEHekI&mg,MyImghJEEMeoMyImg,φ Fkmg,HAH kI",
   "&mghKHAHeoMyImg,φ Fkmg,YEH FkmghMEEMeoMyImg,leHAHeFkmg,kI&mgaJEEM kI&mg,MEEMeFkmg,kI&mg@REH%aYE",
   "H%hH:DDA leDAMMA(eISOLATyg,MyImgaTq ISOLATygaFA<AeISOLATyg,MyImgaKAS](eISOLATyg,MyImgaTq ISOLAT",
   "ygaSUPnSCRIPT mEF ISOLATygaEx φ%aH:Hγ,leMEEMeFkmg,kI&mgaYEH FkmghEHekI&mg,MyImghJEEMγ,l YEH Fkm",
   "gaKHAHγaMEEMγ,leKHAHeFkmg,kI&mgaMEEMeFkmg,kI&mg@REH%aYEH%@UBHAqAHU WA TAAmAvT:(BAiAKA WA-TAAmAf",
   "H φ%aHAH oMEEMeoMyImg,leHAHeFkmg,kI&mgaMEEM kI&mg,YEH FkmghYEH%@EH φ%aH:HeoleJEEMeFkmg,kI&mgaME",
   "EM kI&mghEHekI&mg,MyImghJEEMeoφ Fkmg,MEEM kI&mg,YEH FkmghKHAHeoφ Fkmg,MEEM kI&mg,YEH FkmghMEEMγ",
   ",φ Fkmg,HAH kI&mg,JEEM kI&mg,KHAH kI&mg,YEH FkmghNOp Fkmg,REH Fkmg,YEH%aZAk FkmgaH(m l.UPnSCRIP",
   "T mEF ISOLATyg,EH φ%aHEH MyImg,JEEM ISOLATyg,MEEMγaNOp Fkmg,REH Fkmg,YEH%aZAk Fkmg@UIGHUR KIRGH",
   "IZ YEH l HAMZA +E l mEF MAKSU]eFkmg,I(NI&mg,SOLATyghWASmLAM ISOLATyg,YEH φ%aH:(Heol YEH FkmgaMZ",
   "A +E leA(E%asF%,MAKSU]%@EeFkmg,I(NI&mg,SOLATyghH:H oEHekI&mg,MyImghJEEM oKHAH kI&mg,MEEMγaNOp F",
   "kmg,OE%aREH Fkmg,U%aWAW%aY(EH%aU%hZAk FkmghEHekI&mg,MyImghJEEMeol YEH FkmgaKHAH oMEEMγ,leMEEMeF",
   "kmg,kI&mgaYEH FkmghNOp Fkmg,REH Fkmg,YEH%aZAk FkmgaZAH l MEEMeoMyImg@MA(DDA( WAAJIB,H +|RKeNOp ",
   "GHUNNfSIDEWAYS NOp GHUNNv<EMA&CmeA(k,sFaBEH,D:(D,LaO(TsSSeBEH,FEH,NOp,QAFaUBs-STRUCKeAk,BEH,DA(",
   "D,LaFEH,GHAk,HAH,JEEM,KHAH,LAM,MEEM,NOp,QAF,REH,S:D,Ex,HExaT:H,EH,H(m,EHhWAW,YEH,ZA(H,k)@FEH,GH",
   "Ak,HAH,kI&meAk,BEH,DAD,FEH,GHAk,H:H,EHaJEEM,K:F,HAHaLAM,MEEM,NOp,QAF,S:D,Ex,HExaT(EH,HEHaYEHaJE",
   "EM,K:F,HAHaL:M,OOPyeA(k,sFaBEH,DA(D,LaFEH,GHAk,H:H,EHaJEEM,KHAH,LAM,MEEM,NOp,QAF,REH,S:D,Ex,HEx",
   "aT:H,EH,H(m,EHhWAW,YEH,ZA(H,k@MEEM,NOp,OPnATOReHAH l Dm,MEEM l HAH l TATWEELaQAF,REH,S:D,Ex,HEx",
   ",TRETCHyeAk,BEH,D:D,OTsSSeBEH,FEHhFEH,GHAk,H:H,EHaJEEM,K:F,HAHaMEEM,NOp,QAF,S:D,Ex,HExaT:H,EH,H",
   "EHaYEH,ZAHhT:(H,IsDeAk,D:D,OTsSSeNOp,QAFhGHAk,HAH,JEEM,KHAH,LAM,NOp,QAF,S:D,Ex,HExaYEHhEH,H(m,E",
   "HhWAW,YEH,ZA(H,k@NUMBneMiK +jSIGNaOPxeDAMMATq,FA<ATq,KAS]TqaP(nCxTt,IASTRE> +jLACE OF.AJDAH,O(E",
   "&C VnSEt,UND> +EhQU^&p>,R:(ISy _UND DO?YaEVnSy DAMMfruHEADe+E!lυazaOUNDy HIGH.TOP l FILsD CxTR|",
   "S(EMICOLp,HADDAceISOLATyg,MyImghIGNemAYHE ASSmLAM,MISRf](DI mLAHOU qHU,HMATULLAH mAYH|S:(FHfLLm",
   "LAHOU mAYHE WASSmLAM,MVA?NAHakDHIeAMPnSqD,POSTPOSI&p MxhTAKHmLUSaMmLeDAMMfFA(RSI YEH,<vHIGHeAk,",
   "DOTsSS HEAD OF KHAH,F(iSI YEH,OOTNOTE>naJEEM,L:M mEF,IGATUREemEF l LAM l YEH,QAF l LAM l mEF MA",
   "KSURfSAD l LAM l mEF MAKSU]hM:DDfEEM I(NI&mg,SOLATyghNOp!l KASRvQAF,_UNDy ZnO,S:D,Ex,IGN.AFHvT:",
   "H,HREEυSaUPRr RECTqGULi ZnO,W:W,ORDeA(L-JUZ,N-NISF,R-RUB,S-SAJDf<-<mA<vQIF,SA(H,KTvWAQFAhYEH!Bi",
   "REE l TWOυS zaZA(H,khKASRfLOWeMEEM,NOp l KASRfSEx,W:W,ORDeI(MAmfSHMAAMaTASHEEL@WAW,YEHaTiT OF R",
   "UB EL HIZB,U(BSCRIPT mEF,KUNcez,ISOLATyg,MyImghPnSCRIPT mEF MOKHASSASaYMBOLeDO(Te+jzaUBs ψ Bi z",
   "aFOURυSe+jzaR~,SMmL TAHe+jzaT(HREEυSe+jz,POkT~ DOWNμe+jzhWOυSe+jz,ψLYe+jz@WASLA +EhT:(IL F]GMx?",
   "TWEEL!leFA<ATq +jOVnSTRUCKeHAMZfWAWaTWOυS z@HOUSqDS.EPiATOR,pEeLOOPe+jzapEυe+jzaTWOυSe+jzhRIPsυ",
   " PUNCTUA&p>,URNy DAMMA zaV(n&Cm TAIL,OWELteDOT z,kVnTy.MmL V +jSMmL V +EhWAVY HAMZA z,ZWiAKAYa-",
   "kDICeCUBE _O?DdaZnOaFOUR< _O?PneMILst,Tx <OUSqDt@C,I^,MxIqeA(BBREVIA&p>,POST_PH|C:PITm δAYB,Bx,",
   "C*H*EHaOaDfE(CH,H,TaFEH,G(HAD,IMaHO,k[J*HEHaKE(H,NaLIWN,Mx,NOW,OH,P(EH,IWRaR*EHaS(EH,HvT(IWN,Oa",
   "V(EW,OaXEH,YIcWNaZ*HEhOMMvD]Mt,E(MPHASIS>,XCLAMA&p>aFULL.TOP,HYPHx,MODIFIn sTTn sFT HmF R~,QU^&",
   "p>,SMmL L(ETTneAYB,Bx,C*H*EHaOaDfE(CH,H,TaFEH,G(HAD,IMaHO,k[J*HEHaKE(H,NaLIWN,Mx,NOW,OH,P(EH,IW",
   "RaR*EHaS(EH,HvT(IWN,O,URNy AYBaV(EW,OaXEH,YI!l.T_KjWNaZ*HEhIGATUREeECH YIWN,MxeECH,k[NOW,XEHaVE",
   "W NOW@_W( POkT~eDOWNμ <x CURV~esFTμ,RrμaRrμ <x CURV~eDOWNμ,SOU< W^?UPμaUPμ <x NOR< W^TaHEAD-SHA",
   "Py POkTna&(CULATy LORRY,ST PmETTEhS(C(xD~ NODjIA=aSn&p,T(nIS(K!OPnATORaMapISHy FACjR:EfpOMICm= ",
   "FOR URqUShYMPTO&CmLY EQUm TOaT(Hs&C.HOjOM=aU(BnGkjSTRmt,TO( RICKSHAW,M:Ty TELLn MACHkjOBIs@V(^T",
   "qeABBREVIA&p>,δAcAcN,OaEc|N,OaB(jH|CjD(jH|Ec|FjG(jGjH|H(jM|IcIaJjKjLjMjN(jG(jVjY|NjY|OcOaPjRjS(",
   "jH(jY|SH|T(jHjT|UcUaVjX(jVjY|Y(jY|Z(jHE@OCADOaXE)"]

def charNamesB : List String :=
  ["B:(BYceqGEL,BOTTLjCHICK,SYMBOLhC(K(eOF xVELOPjl sFTμu +|-&LTy.HADOWy WHITE Rrμu,S(LqTy.OU<u l H",
   "O(OKy TAIL,RIZpTm TAILaPACEhp,TRIq CAMELaD(Gn,MkTp ]CQUET qD.HUTTsCOCKaG(EL,GAGE CLAIM,UETTE BR",
   "EADaL(k^EeADEG ADEG,CiIKePA(MUNGKAH,RnxaSIKIaDdaZnOaδA(IKifKiA!TyUNGaRCHAIC JNYfSYU].ASAKaBA!KE",
   "MBqGaCA!LACvDA!M:DU,URDAemPAPRqfMAHAPRqA@E(F.ASAK,KivGA!GORvHfIKiA!TyUNGaJA!JnvK:!MAHAPRqfF.ASA",
   "KaHOT.ASAKaLA!sNGA!TyUNGhMfN:!]MBATaGfYvOKiA!TyUNGaPA!KAPma]!REPA!TyUNGhSA!SA(GfPAhT:ceLA&K,MUR",
   "DA MAHAPRqfTAWAhZIR.ASAKaUKiA!TyUNGaVE.ASAK,WfYfZm.ASAKaMUSICm=eCOMBk~eBxDjxDEP,GpG,JEGOGq,KEMP",
   "(LI!l JEGOGqaUL!l JEGOGqhTEGEHaD:(xG,~,NGceGyjSURqG@E(NG,UNGa~,pG,UNGasFT-HqDeCLOSy PL:K,UKaOPx",
   " P(qG,~,UNGhRr-HqDeCLOSy T:K,UKaOPx D:G,UG@PA(M:DA!LqTqGaxxGaN&!LqTqGhSIGNeBISAH,CECEK,RnEKq,SU",
   "RqG,ULUeCqDRfRICEMhVOWELteLA sNGA!TyUNGaPEPET!TyUNGa] REPA!TyUNGaSUKU!ILUTaT(m~ceREPA!TyUNGaTyU",
   "NGhyUNGaULU!SiIhWkDUaL( OF YiN,ET.HO^,O(pc-SPOKy ASTnISKaTeBO(LD.CRIPT X,X!leB(mLO?OLDeCHECK,SC",
   "RIPT XhCHECK,Lr X,SCRIPT X,X@SCRIPT X,X)@MUMeCO(Lp,M(Bk~>eKOQNDp,TUKWx&SaMAhFULL.TOP,δfEjF:AMAj",
   "EjOM,Ua[K*E(N,?UXa[OcGHOM,VUUaPfU,YE|L*EEEj[OQ,UaMcfB:fxaE(EEjNa[O,UaN*DAfG*GfKWAxa[J:EM,EjUA|S",
   "HfT(EjUUaUcA|YIaO,P*E(jUXaHASE-:eFIR[G(BIEE Fp,HEUAE(GHEUAj]EhK:(FfQaE(?UKEUTNDvPOQ,UOQaL:PAQ,E",
   "T KU?OMMAjUcAEPhM:(E(KEUP,McBGBIEjKPx,VEUXaNY[SIaNSUAjP PIEETaBA(NY[QaEUNJOMNDEUQ,GBASfO(N NGGE",
   "UAE?OM(EU?PUQhVEUAxGAMaN:: MFp,QaDA( snAEWfqGGEUAETax,G(qGU,Gx,KUE( MFp,NZEUMhIKfJAM,K:iAjkDIaS",
   "H*IE|T:PceMFAfNTAAhOQPxaY(E?IcT MpGKEUAEQhZ: MFp,UN MEUThP:( snAEWfA(M,]|MSHAjSHA|E?peMFp PIPAE",
   "M(BfGBIE|PA NJI PIPAEM(BfGBIEEhUPa_M,S(EUNYAM,H(I(NDA PA NJ[]|OQ NSHUT YUM,U(xSHUE?MhISfO(NJAM,",
   "Q,TaUUaT(EU:x,TEUWxaITA MFp,U( MAEMBfAEPhU( YUQ NAjNKNOWNaVE|BeFE(jUXaGHEUGHE(N,UAEMaK:M,EU:EM,",
   "PUQ,YEUXaI(EEM,QhL:(qAjM NSHUT NYAMaE?OM NTEUMaM:!NJ(EUAxfUQAhB:( MAEsjiA|EUR[IT MBAAKE?UOQaEU(",
   "Q,T NGGEETaF(IYAQ,p TEUAEQap&ExaN(DU NJAfG(G:AM,EU MBU,UOQ!LiGEhKkDI MVOP,OMaS(x,HUETa&EE.HEUOQ",
   ",Y:EMAjI NTEUMhP(iUM,E^H[I?UNGAAMaS:KEUAjET TU,HE(T NJAQ,UAEQTUaIEjU|T:AM,UeMAEMGBIEjNSIEEhVEUM",
   ",WUAE?Y:FU snAEWfEU]EhCeBUNG,FUjG(BAY[HA(P,]EhK:fE(NeFA&GUjLAWa?U(KAQ,M,S(EUX,HEUAEP@PiAQ,U(OP ",
   "NKAiAjThL:(M,PaIQ,UaM:(eKEUAn[NSIE|E(MBfSIhB::eCABBAGE-TREjPICKETaNYIaE(EKEE?]jU(M,XhIcRIEx,TaU",
   ":EM,EhGBASAQ,IEjUA|N:(NSqAQ,QaD:(M,PaEU:nEjTaIDfOMBUaG:Q,G(x,UcAx NYAM,EE?M,phK:Q,UE MAEMBvOMaJ",
   ":(EM,MaE(EEjUXaUEQaS*EUAx,HAQ,OM,U(N,OT NGOMhT:fE(N,UNGBvU MBITaYIR MKPiAQ MEUN,Z*EUMhP(x,I(N,R",
   "IExhRU,S(E(TFp,UXaH(IQ,UEQaUAETaT:ASHAjE(?UTEUXaIT: YUjUAEPhVEU:EPx,XaW(qGKUOQ,UPaY:fEUQ,U( MUO",
   "MAjM,WOQ@DeF:fEUFEUAETaGH:fEUA|K(E(?U:ETMEUN,M,OT MBUAjPhUcN,OM,QaWAE?YE|L(E(EEj?U:EP,MhIEjOQ,U",
   "MaMcA(xJE?snIaB:A!SEVxaUOaE(EEjU(N,ThF(EU:jTaIEjOcNhGB(EUN,IEjOFUMap[U,VOPaN(D:M,E(jUXapaG(G::M",
   "cA|PaEUX,UOM,WAxaK:P,EU:EQ,RIaIEjUN,YEEh[J:P,EU:EM,TaIcE|UEQaS(H(EjUTaIEE(P,TaUMaT(E(jUMaUUaU,Y",
   ":M,E?[UEhP:P,E(jUTA|IP,U(Q,UThR:EM,xeMUCH,OLDaIIaS:(P,QaEUAEQ,H(E(jU:jXhI[OQ,UaO?U:jjUhT:jE(EEj",
   "U:x,N,Th[OQ,UcOThW:P,UAxaY:EMMAjx,U(O(M,PaWOQ@EefF:cQaEjOM,U(eCmL,[REMyYaEcT@G(BE(?UXaH:AMAjE(?",
   "U:jN,XhOMh[K(E(?U:jXh[O,PEUX,U(E?OP,ThL::M,P,QaEUAEM,O(M,O(N,TaQaUaM:cEcMaP,QaBE(jUMax,FEUQ,GB*",
   "xaIcE|p,UAjVIaN:c|D::eMY HOUSjSOFTN^SaPaI:Q,QaUNaG*EUREU?G(E(EEjUAEcThU:^HAE NYAM,P,]EhK:cAMIaE",
   "U:EM,XaU(M,PhO(P,QaUAEcThJ:EML[E(E!EPOCHaUXhKOM,SH(IEjU(jOPhT:P,UMaYIeBETWEx,CsAVnaZ:Q,UQhO,P:(",
   " P(EOPLjLURmaAcMhE(EM,U(?XhIcE(EQ,ThOcpaUcA(jQajMhR:(jQaEUX,IMGBvS:fE(jTaH(EUAEQ,IQ,OcQhOM,UAxa",
   "T::cQax NTEUM,M,QaE(N,UcAEQhO(OcNaQaU:jMcAE@V(E(jUA|OMaW(EUX,U(jOhY:P,EU:EcTaM,XaI(EjTaOQeCOVn,",
   "SWIMM~aU:x,EQ,N,Q@FeEjFOM,K*E(N,TaO,PfU,YE|L*[OQaMcfB:fxaEEEjOaN(DAfG(GfKWAxa[J:EM,UA|SHfTEjUcA",
   "|YIaP(E(jUXaUA|R(E(jN,UXaI(EjIaUaS:MBfEUX,H(I[O,Ua[UUaT:*|ETaU,VUEQ,W*U|Y*OQ@[U:jEhR:jE(jN,UXaI",
   "(EjIaUaS:MBfEUX,H(EUX,I[O,Ua[UUaT:*|E(N,TaIaU,W*U|Y*OQ,UQhNJAEML[QU^&p>,SEMICOLpaN(qfJO,KcNOTE ",
   "leDOLLit,EU_t,POUNDt,Yxt@R(eCHi?OF.OAPaBn POsaS(EBmL,KETcBmL qD HOOPaSA VAHeCOMBk~eHIGH( Tpj-LO",
   "W Tp|LOW( Tpj-MID Tp|MID Tp|FULL.TOP,δfBfCjD(HI[OaEcjNNIaFfG:H,BUaHWAH,[JO,K*PAHaMBjOcOaPfSjTO,",
   "UcWUaVU,WAcDDvY(Ek,I|ZO@TcAKeCpSpqTteH,NGaδfBfCfDfGfHf[JfKiO BfLfM:cNDAIL~eHfNfSAhBvN*DfGfOR<nN",
   " TfYvPAcKPAK WvRfS*IMmUNGUNefGfHfLfMfPfRfSfWfYvOU<nN TvU,WfYvPq(GOLA?pGpqaS(IGN TOMP[YMBOL BkDU",
   "eJUDUL,NA METEK,P(qGOLA?kiBO]S@VOWELteEc|[KiOe[OaO,PAKPAK jU!FOR.IMmUNGUN.A@HcTUBaTnYhE:(CH l U",
   "MBRELLfMyeASCxD~ MUSICm NOT^,D^CxD~ MUSICm NOT^,ErH NOT^,SIXTEx< NOT^aNS,R( FACjDy PnSpaT~ HEi?",
   "VnaCAUSjD,E(R MUG,TsaLcLcePEPPn,SYMBOL,l CqCELLA&p.T_K|HOP BELLhN(GmIeA(BBREVIA&pt,NJ[U sNG<>aC",
   "URRxCYeDxOMkATOR.IXTEx,NUMnATOReFOUR,pE!sSS <q <E DxOMkATORaT(HREjWO@DdaZnOaGqDA>,ISSHi,δAcf[κA",
   "cNDA TAhLfMfN*GfNfYvO,P*HvR:!leLOWn DIAGpm,ξDIAGpmhHfRvS*HfSvT*HfT*HAhUcUaV(yIC qUSVifρ@Y*YAhRU",
   "PEEeMiK,SIGNaS(qDHI>,IGNeA(NUSVifVAG]HvCqD]BkDU,NUKTfVI(]MfSiGA@VOWELteA*[UajIcIaO,UcUaVρ)@T(u ",
   "POkT~ DOWNμ <x NOR< EAS?O BOXaZxE R~!l CIRCshT(=,WExaVnAGE BOXaHAIKSUKIeD(qDfdaZnOaOUBs DqDvGAP",
   " FILLn-(1,2aHUNDRyS UNIT>,δAcf[κvLfMfN*GfNfYvO,P*HvRfS*HfSvT*HfT*HAhUcUaV*OCmICeL,RcR@YvNUMBneE",
   "rcYaF(I(FTY,V|O(RTY,URhNkEcTYapjS(EVxcTYaIXcTYhT(x,H(IRTY,RE|W(xTY,O@SIGNeA(NUSVifVAG]HvCqD]BkD",
   "U,VI(]MfSiGAhVOWELteA*[UajIcIaO,UcUaVOCmICeL,RcR@WORD.EPiATORaI(CYCL(jISTaGeREVnSE.OLIDUS,SOLID",
   "USaKk[LL(y CAP,IiDSaOHAZiDt,R(D,<DAY CAK|Sp,T(COkt,~ LIPhL:(CK(eBOW&jC(xTRE WHITE.Ti,H^SeBISHOP",
   "βEQUIHOPPn!_TATy NkETY DEGRE^aK(~βNr!_TATyeFORTY-FIVE DEGRE^,NkETY DEGRE^,pE HUNDRy <IRTY-FIVE ",
   "DEGRE^,T(HREE HUNDRy FIFTEx DEGRE^,WO HUNDRyeSEVxTY DEGRE^,TWxTY-FIVE DEGRE^@-(BISHOP,QUEx,_OK@",
   "PAWNβQUExβ_OKβTURNyeBISHOP,K(~,NraPAWN,QUEx,_OKhIRCsceFOR RECORD,leDOWNu,TWO WHITEυS,WHITEυ Rr@",
   "LUB.UI?_SS p.HIELD,URVyeDOWNμ qDesFTμu,RrμuasFTμ qDeDOWNμu,UPμuaRrμ qDeDOWNμu,UPμuaUPμ qDesFTμu",
   ",Rrμu@D(IAMpDceCxTRy,MkUS WHITE X,p C_SS,SUI?l DOWNuhOWN( POkT~ BACKHqD kDEX,-POkT~eω TRIqGLjIS",
   "OSCEsS Rr TRIqGLjSMmL TRIqGLjTRIqGsaμ EQUILATnmuHEADaR:UGHTSeK~,MqaOPsThF(L:G,ORETT|O(LDn,UR PO",
   "kTy.TihH(iD.HELL FLOPPY DISK,E(iT!SUITaXAGpaO(RIZpTm ELLIPSjURGLASShL(iGEeCIRCLjSQUi|EFT(eLqE M",
   "nGjPOkT~eBACKHqD kDEX,kDEXh-POkT~eω TRIqGs!l ψ BiaISOSCEsS Rr TRIqGLjPOkTn,SMmL TRIqGLjTRIqGsaμ",
   "eBULs?EQUILATnmuHEADhO(WnesFT TRIqGLjRr TRIqGsaZxGEhM(yIUMeD(IAMpD,OWN-POkT~ TRIqGs!CxTRyhL(EFT",
   "-POkT~ TRIqGs!CxTRyaOZxG|Rr-POkT~ TRIqGs!CxTRyaS(MmLeDIAMpD,LOZxGjSQUi|QUi|UP-POkT~ TRIqGs!CxTR",
   "yhOp LILI<aNIB,OCTAGp,P(imsLOG]M,x(Nq?TAGpaUSHPkaQU^&p> ORNAMx?R(ECTqGLjr( POkT~eBACKHqD kDEX,k",
   "DEXa-POkT~eω TRIqGs!l ψ BiaISOSCEsS Rr TRIqGLjP(xTAGp,OkTnaSMmL TRIqGLjTRIqGs!l ω ψ Bihμei_WcHE",
   "ADaBULs?EQUILATnmuHEADhOSETT|S:FETY.CISSORS,CISSORS,HOGI PIECjKULL qD C_SSBp^,LrLY.MmLeCIRCLjSQ",
   "Ui|M(mLeDIAMpD,LOZxGjS(QUijTihIL~ FAC|NOWMq,PADE.UI?QUiEceBUTTp,CxTRy,FOR.TOPhTi,UN l ]YSaT(EsP",
   "HpjkYeDIAMpD,LOZxGjSQUi|OUCHTpE TEsPHpjRUCK,WO-WAY sFT WAY T]FFICaU(NIVnSm RECYCL~=,P( POkT~ BA",
   "CKHqD kDEX,-POkT~eω TRIqGLjISOSCEsS Rr TRIqGLjSMmL TRIqGLjTRIqGsaPnesFT TRIqGLjRr TRIqGsaμ EQUI",
   "LATnmuHEADhVn(&CmeELLIPSjRECTqGsaY.MmLeDIAMpD,LOZxGjSQUiE@-(FEA<nyeNOR< EASTu,Rrμu,SOU< EASTuas",
   "TTn CAPITmeC,H,[R,Z@NK=aO(CK.EXTqT-(1c2c3c4c5,6a5c6a6a4c5c6a6a5c6a6a3c4c5c6a6a56,6a4c5c6a6a5c6a",
   "6a2c3c4c5c6a6a5c6a6a4c5c6h5c6a6a3c4c5c6a6a5c6a6a4c5c6a6a5c6a6aSSOM,WFISHaUE(eBOOK,HEiTaBnRI^hO(",
   "i,LDeEr.POKy ASTnISK,FIVE.POKy ASTnISK,GREEK C_SS,S(m&RjIX.POKy ASTnISKaWHITEeCIRCLjSQUiEhMcBaN",
   "jO(KcMiK!TABSaSaMnqGaPOMOFOeFkm δG,H,K,P,TaδAcH,IcNNaM,NcG,NaUcNNhBcUaCcHaD,EcjH,[NcG,NaRaF,GcH",
   ",N,U,WaH,IcH,M,NNcNaR,UaJcIaKcWaLcHaM,NcGcGaNaO!lυ +jjM,N(G,NaO,UaP,Q,R,ScHa?UcNNaV,X,ZcH,[Y@TT",
   "(s l POPP~ CORK,OMeiC q&CLOCKWISEu,CURLYθ?HmFeτ CIRCLjkTEGRm,sFT Pix<^IS,Rr Pix<^ISasFTeC(ORNn,",
   "_PaHmFθTaPix<^IS,RreC(ORNn,_PaHmFθTaSQUiEθT!OVn TOP.QUiEθTaTORTOISE.HELLθThUQUET!OF FLOWnSaW( q",
   "Du,L(eOF HYGIEIfl.POpa~a&E!lesFT HmF τ,Rr HmF τ@X( D]W~SeDO(UBseDOWN qDeζ,sF?Rraζ,UP qDeζ,sF?Rr",
   "aψ!qDeζ,sF?Rr@WNeω qDeζ.~LjsFT.~LjRr.~saHEAVY qDeζ Lr,sFTeLr,UP LraRreLr,UP LraUP ζ LraLr qDeζ ",
   "HEAVY,sFTeHEAVY,UP HEAVYaRreHEAVY,UP HEAVYaUP ζ HEAVYaS~s qDeζ DOUBLjsFT DOUBLjRr ω@HEAVYeDO(UB",
   "s DASHeζ,ψaWN!qDeζ,sF?Rr@ζ,sFT!qD Lr RraQUADRUPs DASHeζ,ψaRr,TRIPs DASHeζ,ψaUP!qDeζ,L(EF?r DOWN",
   "aRrhψ!qDeζ,sF?Rr@L(EFTeDOWN HEAVY qD Rr UP Lr,HEAVY qD RreDOWN Lr,UP Lr,ψ LraLr qD RreDOWN HEAV",
   "Y,UP HEAVY,ψ HEAVYaUP HEAVY qD Rr DOWN LrareiCeDOWN qDesF?RraUP qDesF?RrhD(IAGpmeC_SS,DIAMpD,MI",
   "DDsesFT TOeLOWn CxTRE!TO ξRraUPPn CxTRE TO ξRr!TO LOWn CxTREhRr TOeLOWn CxTRjUPPn CxTRE TO ξsFT",
   " TO LOWn CxTREhUPPneCxTRE TO MIDDsesFTceqD ξRr TO LOWn CxTRjTO LOWn CxTRE!TO ξRr@RrceqD ξsFT TO",
   " LOWn CxTRjTO LOWn CxTRE!TO ξsFT)@sFT TO LOWn Rr,Rr TO LOWn sFThO(UBs DASHeζ,ψaWN!qDeζ,sF?Rr)@ζ",
   "!l ψ.T_K|sFT!qD HEAVY RraQUADRUPs DASHeζ,ψaRr,TRIPs DASHeζ,ψaUP!qDeH(EAVY DOWN,ORIZpTmasF?Rrhψ!",
   "qDeζ,sF?Rr)@RreDOWN HEAVY qD sFT UP Lr,HEAVY qD sFTeDOWN Lr,UP Lr,ψ LraLr qD sFTeDOWN HEAVY,UP ",
   "HEAVY,ψ HEAVYaUP HEAVY qD sFT DOWN LraUPeω qDeζ.~LjsFT.~LjRr.~saHEAVY qDeDOWN ζ Lr,ζ Lr,sFTeDOW",
   "N Lr,LraRreDOWN Lr,LrhLr qDeDOWN ζ HEAVY,ζ HEAVY,sFTeDOWN HEAVY,HEAVYaRreDOWN HEAVY,HEAVYhS~s q",
   "Deζ DOUBLjsFT DOUBLjRr ωhψeω qDeζ.~LjsFT.~LjRr.~saHEAVY qDeζ Lr,sFT Lr,Rr LraLr qDeζ HEAVY,sFT ",
   "HEAVY,Rr HEAVYaS~s qDeζ DOUBLjsFT DOUBLjRr ω@~ GLOV|YcS=hPH,R:(HMIeD(qDfdaZnOaOUBs DqDvδAcf[κvL",
   "*LvMfN*GfNfYvOcLD TAMILeLL*LvNNNfRRfSHORTejO@P*HvRfS*HfSvT*HfT*HAhUcUaV*ρ@YvNUMBneErcYaF(I(FTY,",
   "V|O(RTY,URhJOkn,NkEcTYapEcεhS(EVxcTYaIXcTYhT(x,H(IRTY,RE|W(xTY,O@PUNCTUA&peCR^CxT Bi,DO(?UBsυaL",
   "(kjOTUShSIGNeqUSVifCqD]BkDU,JIHVAMULIYfOLD TAMIL VI]MfUPADHMqIYfVISiGvV(I]MfOWELteA*[UaBHAT&P_L",
   "U AfjIcIaOcLD TAMIL.HORTejOhUcUaVρ))@I(Ls PATTnNeBLqK,DOTS-(1c2c3cιaιa3cιaιa2c3cιaιa3cιaιhNhE:(",
   "D,K PnMITTy HnjST-FEy~aV|I(CK,D(E l VEIL,GE AT NraEF(CASjShO(CCOL[KxeBi,CIRCs l NOR<W^Tu,HEiTaO",
   "M,WN HEiThS,U(BBs( TEfSaCKE?Gck^EexD OF.EC&p,δfBfCfDfGfHfJfKfLfM*PvN*G*KvRfY*CAhPfRfSfTfVfYvPmL",
   "AWfVOWELteAjj[O,U@HIDeδfBfDfGfHf[KfLfMfN*GvPfRfSfTfU,WfYvVOWELte[UhILD~ CpSTRUC&p,LL(ET!OPnATOR",
   "aHORN!l.OUND WAV^aSEY|RRITO,S!STOP,T( k.ILHOUETTjS k.ILHOUETTEhTTncFLYhY(TE ORDn>,ZqTkE MUSICm=",
   "eA(GOGIeiG([OTnIaGORG([OTnIaME(S[TRIvPOLIeiG[GORGIhN:TRICHISMf&KxO(KYLISMfMAhP(^O E(KFpI&Kp,XO ",
   "NEOaL[O(DnMAeiCHAIp,NEOaST_FO(IeSYND^MOS NEO,TELOUS ICHIMATOSaSceDIPL[NEO@<EMAhR(GO(N,SYN<ETpaK",
   "&KOeD[GfKjN[PfVOU,ZO@CH:MIL([paOREVMAeiCHAIp,NEOa_AeKLITp,SPA<[ZYGOShD:SEIfI:(RGp,STOLIeAPLI M(",
   "EGm[IKRIaDIPL[<^EOSh^ISeAPLI DYO DODEKATfDIG]MMOS EX DODEKATfMpOG]MMOS T^SnA DODEKATfT(ETi&MORI",
   "p,RI(G]MMOS OKTO DODEKATf&MORIp@FTOGGOS OU,G(ORGp!Pi^&GMxpeiISTnAeqO,KATOaDEXIAh]MMA GGaPLI!iCH",
   "AIphYOaE(KSTREPTp,LAFRp,N(iXIS KAI F<O] VOU,DOFppaPEGnMfTnpeiGOSYN<ETp,PiAKm^MvXO EKFpI&KpaF(qn",
   "OSISeDIFpIAS,MpOFpIAS,TET]FpIASaHTO].KLIRp CH_MA VASIS,<O]eiCHAIp!DEYTnOU ICHOUaDIATpIKIeD[KjN(",
   "qfIeqO,KATOhPfZOaxiMpIOS q&FpIfI YF^IS TETi&MORIp,MmAKp CH_MAeDIFpIAS,MpOFpIASaN:OS ICHOS,xqOaS",
   "KLIRpeCH_MAeSYNAF[VASISaDIATpp DI@G(xIKIeDI^IS,YF^ISaOR(GO(NeiCHAIp,NEOeqO,KATOaPi^&GMxpeiISTnf",
   "DEXIAhSYN<ETpa<MIKp NeAPLOUN,DIPLOUNhRp<ISMATvI(CHADk,MI(DIiGp,F(pp,<OR*p@S:KIA TELOUS ICHIMATO",
   "S,peiCHAIp,NEO@K:T:VA( T_MIKp,SMvHIS&ax&MA(eiCHAIp,NEOeqO,KATO,M^OhTAceiCHAIp,NEOeqO,KATO,M^O)@",
   "LASMAceqO,KATOhO(NTEVMA!mLOaRpIS,UFISMvR:&M:(eA(LLO,RCHAIpaNEOaTvO(KOUFISMfYPOR_phEMAS&aYLISMvL",
   "(E(IMMAeDYO CHRpp,xOS CHRpOU,IMISEOS CHRpOU,T(^Sip CHRpp,RIp CHRpphMOIaYGISMvM(iTYRIAemLIeDEYTn",
   "OS ICHOS,P_TOS ICHOSaDEYTnOS ICHOS,sGETOS ICHOS,P(LAGIOSeICHOS,TETiTOS ICHOSa_TO(S ICHOS,ViYS I",
   "CHOShT(ETiTOSeICHOS,sGETOS ICHOSaRI(FpIAS,TOS ICHOShViYS ICHOSaIKRp ISpaNqfO(LIGpeiCHAIp,NEOaMm",
   "p,XEIA(eDIPL[EKFpI&Kp,NEOaI iCHAIpaYRqISMAeiCHAIp,NEOhP(i:K(m^MAeiCHAIp,NEOaLI&KIceiCHAIp,NEO@I",
   "CHpaE(LASTp!NEOaRISPOMx[TAS(MfT([OKOUFISMA@IASMAeiCHAIp,NEOaSI(FISTO(LYGISMfN!NEOaPiAKm^MfSYNAG",
   "MvL([p@R:PISMfEVMvS:XIMATfEISMA!NEOaIMqSISeiSEOSceDISIMOU,T(ET]SIMOU,RISIMOU@<^EOSceDISIMOU,T(E",
   "T]SIMOU,RISIMOU)@T:V_S!APODEXIvIGMf]GGISMATvY(N:GMAeiCHAIp,META.TAV_U,NEOaEVMvRMAc&KI@T(E(sIfSS",
   "nfT]PLIaH(E(MA!APLOUN,&SMOS E(SO,XOhS KAI APO<^aITvkAGMfR(I*GORGp,PLIaOMIKO(LYGISMfNeA(LLO,RCHA",
   "IpaNEOaP(iAKm^MfSIFISTpaSYNAGMA@VA(REIA(eDIPL[EKFpI&Kp,NEOaI iCHAIpa<YaXIRp KLASMfY(FE(NeqO,KAT",
   "OaSISeAPLI DYO DODEKATfDIG]MMOS EX DODEKATfMpOG]MMOS T^SnA DODEKATfTRI(G]MMOS OKTO DODEKATf&MOR",
   "Ip@P(O(KRISIS!DIPLIaR_IaSILI)))))"]

def charNamesC : List String :=
  ["C:(CTUS,D: UNfUCEUSaL(xDi,L ME HqDaM(nA!l FLASHaP~aNcADIq.YLLABICSeAcAc[YaIcVILIK BaN,<APASCqeM",
   ",SaYaB(EAVn DxEeL,RaIBs-CREE Y,LACKFOOTefj[K*j[OaN*j[OaO,S,Wcfj[O@CcAcAcIaRRIneCH*Ec|[O,UaD(E(j",
   "N(E GEjTm.h[L*Ec|[O,UaZ*Ec|[O,UhEjG:cvEc|H*Ec|[O,Ua[O,U,W*UhHcEj[W*Ec|[O,UhIcNI&m ZaJ*Ec|[J*Ec|",
   "[O,UaO,U,WvK(H*Ec|[O,UaKcfEc|[O,UhL*Ec|H*Ec|[O,Ua[O,UaM*Ec|[O,UaN*Ec|G,[O,UaPcfEc|[O,UaR*Ec|[O,",
   "UaS*Ec|HcfEc|[O,Ua[O,UaT(H*Ec|[O,UaL*Ec|H*Ec|[O,Ua[O,UaS*Ec|[O,UaT*Ec|[O,S*Ec|[O,UaUhW*Ec|[O,Ua",
   "Y*Ec|[O,UaZcfEc|[O,U@jHIt,IcIaOcOaW:cvjIcIaOcO@EcASTnN W,NaFcAcAcIhjIc[NmeACUTjBOTTOM HmF R~,DO",
   "(UBseACUTjSHORT ψ.T_K^aWN TACKaG]VjξDO?PLUS,R:ISy DO?I(GHT HmF R~,NGhS(HORT ζ.T_KjMmL R~aTOP Hm",
   "F R~hOcOaULL.TOP,WAvGLOTTm.TOP,H(K,YPHxaIc[NaKcAcAcIaYajIcIaOcOaWcAcfYajIcIaOcO@LcAcAcIaYajHcAc",
   "vIcIaOcOhIcIaOcOaW:cvjIcIaOcO@McAcAcIaYaEcDImeL,RhH,IcIaOcOcSE-CREE.KhW:cvjIcIaOcO@Nc-CREE <(jI",
   "cIhAcAcIaSKAPIeCWAfKWAfMWAfNWAfS(-W,CWfKWcvPWfTWfWAvTWAfW:fOOaYWAvT&LIKeH:cvIcIaOcOhSHR:cvIcIaO",
   "cO@YajGcAcAcIaIaIcIaOcOhH,IcIaNGcAcvIcIaOcOhOcO,YaUNAV(IK HcAcvjIcIaOcOhUT HaW:cvjIcIaOcO@OcJIB",
   "WAYeC,K,M,NcW(IcIaOcO@P,ScHaTaN,O,YaPcAcAcIaYajIcIaOcO,YaW:cvjIcIaOcO,Y@QcAcAcIaIaIcIaOcOhRc-CR",
   "EE R(jW|AcAcIaYajIcIaOcOaW:cvEjIcIaOcO@ScAcAcIaYcISIeH*j[OcOhJ([UcUhM,SH*j[OcOaW|<,YI@jHcAcfYaj",
   "IcIaOcO,YaW:cvjIcIaOcO,Y@IcIaOcO,U<-SLAVEY K:H,EH,IH,OHaYaP*j[OaWcAcvjIcIaOcO@TcAcAcIaYajHc-CRE",
   "E <cAcvjIcIaOcOhAcvjIcIaOcOaW:cvEhIcIaLH*j[OcOaW|OcOaT*jHcAcvj[OcOaW|[OaW:cvjIcIaOcOhY*j[OhW:cf",
   "YaEcST(-CREEeCW:cvjIcIaOcOhFWAfKW:cvjIcIaOcOhLcAcvjOcOaW:cvjIcIaOcO@McW:cvjIcIaOcO@NW:cv|PcW:cv",
   "jIcIaOcO@Rcfj[O,WAvS(HW:cvjIcIaOcOhW:cvjIcIaOcO@T(HWAfW:cvjIcIaOcO@W:cvjIcIaOcOhYcW:cvjIcIaOcO)",
   "@nN WhIcIaOcOcDS-CREEeFkm <,<cfj[O,W:cvEjIcIaOcO))))@Yc-CREEeCOO,KOO,LOO,MOO,NOO,OO,P(OO,WAvSOO",
   ",TOO,W,YOOaAcAcIaYajIcIaOcO,YaW:cvjIcIaOcO)@CE(LceCHiACTn,TAGaLA&p XaRaD(LjYaNy FOOD,O|P(ITULUM",
   ",RICORNaR(.LID~,DeFIs BOX,kDEX!DIVIDnShE( OF,T!kSn&p POkThIq δAc2aB,C-(18,39aDc2aEc2aGc2aIcIaKc",
   "2aLcDc2hMcBc2,3,4hNcD,G,NaO,Pc2aQ,RcRaScHc2aS,Tc2hTcTc2hUcUcUc2,3,U@XaO(N,USEL HORS|P(.TREAMn,x",
   "TRY.AWaR(IAGE RETURN,OThSTLjT!FACE!leTEiS OF JOY,WRY.MIs@U(CASIq mBqIqeCITA&p>,δA(L?ORaBE?C:(R,",
   "YNaH:cTa[OYaYA(W,YhD:?Yq,Z:Y,YAYhE(B,YNaFAM,G(HEYS,IMaHEY?I(NYfRB,WNaJ:YN,HOXaK(i,IWaL(q,YITaMA",
   "Q,NOWC,p,P(x,IWRaQA(R,Ya]?S(EYK,H:cKaOYhT:S,IWR,YAYaVEYZ,XEYN,Y:YD,OWDaZ(iL,H*IL)@&pthCH,E(DI(t",
   ",LLvL&C C_SS,NT(t,RE( LkE=,LkEeLOW LkjOVnLkE@R^aGJ,H:(I(NS,RaKMAeAU>,D(qDfdaZnOaOUBs DqDvδAfB:f",
   "HAvC:fHAvD:fD:fHAvHAvjG:fHAvHAf[J:fHAvK:fHAvL:fHAvMAfN:fGAfNAfYAvP:fHAv]fSAfT:fHAfT:fHAAhU,VAfW",
   "AfY:fYAAhMAAYYAfO>,QU^&p>,S(EC&p>,IGNeqUSVifCqD]BkDU,VISiGAhV(I]MfOWELteAcf[UaEcIaIcIaOcIaUcU)@",
   "MeCpSpqTteFkmeH,M,NGaLfRfWfYvDdaZnOaδAcIaB*BfHvCH*HvD*DfHvjFkmeCH,G,K,L,NcGaP,R,SS,?YaG*HvHf[J*",
   "HvK*HvLfM*U|N*G*U|H*JfU|U|O,P*HfPvRfS*SvT*HvU,VfYvPUNCTUA&peD(qDfOUBs DqDvSPIRm,TRIPs DqDvVOWEL",
   "teA*[UaE[IcIaOc|UcE@R:CTn T:BULA&pceSE?l JUS&FICA&phI|T leDOWNμ TRxD,UPμ TRxD!qD Yxt)@E(CK(>,n ",
   "BOiD!FILLhE(R~ MEGAPHpjSE WyG|QUny FLAG,R(OKEEeδfD*j[LfO,U,VajG*j[O,U,VaH*j[NfO,U,Va[KfL*j[O,U,",
   "VaM*j[O,U,VaN:cHaj[O,U,VaO,QU*j[O,U,VaScfj[O,U,VaT*j[L*j[O,U,VaS*j[O,U,VhU,V,W*j[O,U,VaY*j[O,U,",
   "VhSMmL δfD*j[LfO,U,VajG*j[O,U,VaH*j[NfO,U,Va[KfL*j[O,U,VaM*j[O,U,VaN:cHaj[O,U,VaO,QU*j[O,U,VaSc",
   "fj[O,U,VaT*j[L*j[O,U,VaS*j[O,U,VhU,V,W*j[O,U,VaY*j[O,U,V@R(I^,Y BLOSSOMhSTNUTaI( RHO,CKx,LDcRx ",
   "C_SS~aPMUNK,RpaO(COLATE Bi,PS&CKS,]SMIqeδA(sPH,YkaBE<,CURsD WAW,DmE<,GIMEL,HEc<aKAPH,LAMyH,MEM,",
   "NUN,PjR^H,S:MEKH,Hk,MmL mEPHaTAW,WAW,YODH,ZAYkaNUMBneFOUR,pE!HUNDRyaT(x,HREjW(xTY,O))@RISTMAS T",
   "REjURCHaI(NEMfRC(s(eDIVIDy BY ζ Bi qD TOP HmF DIVIDy BY ψ Bi,lemL BUT UPPn sFT QUADRqT τ,ζ Bi,L",
   "(EFT HmF τ,OWn HmF τaRr HmF τ,S(MmL CIRCs TO <E Rr,UPnIMPOSy XaTWO ζ.T_K^ TO <E Rr,UPPneHmF τ,R",
   "r QUADRqT τaψ FILLhDeA(N&CLOCKWISE(u,-_TATy DIVISIptaSTnISK OPnATORaB(OLD X,ULsTaC( l OVnLAID B",
   "ACKSLASH,C,D,_SS(eFORMEE!leFOURυS,TWOυShPOMME|~ Lq^hD:SH,I(GITeEr,F(IVjOURaNkjpjS(EVx,IXaT(HREj",
   "WOaZnOaVISIp.(IGN,LASHhO(LLit l OVnLAID BACKSLASH,T OPnATORhEQUmS,GREATn-<q,H(qGULeC(HIEUCH!vIE",
   "UC!AhHIEUH!vIEUNGcefUhK(HIEUKH!vIYEOK!AhMIEUM!vNIEUN!vP(HIEUPH!vIEUP!AhRIEUL!vSIOS!vT(HIEU<!vIK",
   "EUT!A@EAVY WHITE Rrμu,ORIZpTm Bi l NOTCH,UMq FIGUR|I(DEOG]PHeA(CCEP?DVqTAGjLLIqCjTTx&paC(xTRjO(",
   "NG]TULA&p,PY,RRECThE(i<,r,NTnPRISjXCELsNTaF(EMmjI(NqCIm,RjV|OURaH:VjIGHaITEM,K(kDnGiTx,OTOaL:BO",
   "R,EF?OWaM(mjE(DICkjTmaOpaN:MjI(GH?NEhpjPRk?QU^&p,R(E(LIGIp,S(OURCjThraS(CHOOL,E(CRE?VxaIX,OCIET",
   "Y,PECIm,T(OCK,UDYaU(ITABLjN,PnVISEhT(x,HREjWOaW:Tn,OODhNFORMA&p.OURCjTmIC LATk CAPITm δC,RhK:TA",
   "KqAefjH*j[O,Ua[K*j[O,UaM*j[O,UaN*j[O,UaO,R*j[O,UaS*j[O,UaT*j[O,UaU,W*j[OaY*O,UhOREq CHiACTneCHA",
   "MKO,JUEUIhL:TkeCAPITm sTTn$aSMmL sTTn$h^S-<qaM(kUS,UL&PLICA&pt l CIRCUMFsX ACCxTaNUMBneE(r(Ex,Y",
   " p τ.QUi|sVxaF(IFT(Ex,Y!p τ.QUiEhO(RTYceEr,F(IVjOURaNkjp( τ.QUij|S(EVx,IXaT(HREjWO@URTExhNkETEx",
   ",S(EVxT(Ex,Y p τ.QUi|IXT(Ex,Y p τ.QUiEhT(x!p τ.QUi|HIRT(Ex,YceEr,F(IVjOURaNkjp( τ.QUij|S(EVx,IX",
   "aT(HREjWO)@WE(LVjNTYceEr,F(IVjOURaNkjp( τ.QUij|S(EVx,IXaT(HREjWO)))@OPx CxTRE Er POkTy.Ti,P(ims",
   "L,nPxDICULi,LUS,OSTm>aR(EVnSE.OLIDUS,~ OPnATORaSQUijT(IM^,RIqGs!DOWNhψ Bi,W(HITEeBULs?STiaZaX,Z",
   "nO l.LASHhU(LA&p FUNC&p,MFsX ACCx?S TxThTYSCAPE!AT DUSKhJKeCOMPA&BILITY IDEOG]PH-(2F(8(0w1w2w3w",
   "4w5w6w7w8w9wAwBwCwDwEwF(b,fB,C,D,jFh9(0w1w2w3w4w5w6w7w8w9wAwBwCwDwEwF(b,fB,C,D,jFhA(0w1(b,fB,C,",
   "D@F(9(0w1w2w3w4w5w6w7w8w9wAwBwCwDwEwF(b,fB,C,D,jFhA(0w1w2w3w4w5w6(b,fB,C,Da7w8w9wAwBwCwD(b)@]DI",
   "CmeB:MBOO,LUjO(LT OF CLO<,NjXaRUSHepjTWOhC(-SIMPLIFIyeBIRD,Ci?D]Gp,E:?VxaF(ISH,LY,_GaG:TjOLDaHO",
   "RSjL(EAF,pGaS(m?EjHELL,ILK,PEECHaT(qNy sA<n,OO<,URTsaWkDaHOKjI(TY,VILIqaL(IFF,O<^aOWaD(EA<,IVkA",
   "&p,OGaE:TepjT(HREjWOhWjY|F(IRjOOTaG(HOS?]SSepjT(HREjWO@H(qD,EA(D,RTepjTWOhORNaJ(-SIMPLIFIyeD]Gp",
   ",EVx,T(OO<,URTshAD|KNIFEepjTWOaL:MEeFOUR,pjT(HREjWOhpGepjTWOhM(E:?SHaO(p,RTi,<n,UNDepjTWO@NETeF",
   "OUR,pjT(HREjWOhOLD,P:WepjTWOanSpaR:(k,M,PaEPEATaS(E(m,CpDepjT(HREjWO@HEEP,I(LK,MPLIFIyeH(mF TRE",
   "E TRUNK,ORNaW(mK,HEATaYELLOWhMmLepjTWOaN:KjOUTepjTWOhPIRITepjTWOaUNaT:BLjHREAD,IGn,URTsaW:(LKep",
   "jTWOaTnepjTWOh^TepjTWO@ST_KEeBXG,D,HcG,PcWGaXWG,ZcG,?WcGaZcP,ZcG)@N,PcD,G,ZaQ,ScG,P,?WcG,ZaZcWG",
   ",ZhTcNaWG,XGhL:(MSHELL MOBIs PHpjPP(n BOiD,~ HqDStaSSICm BUILD~aEi.CREx=,I(NK~eBEn MUGS,GLASS^a",
   "PBOiDaO(CK( FACEeE(r( OCLOCK,-<IRTYasVx( OCLOCK,-<IRTYhF(IVE( OCLOCK,-<IRTYaOUR( OCLOCK,-<IRTYh",
   "NkE( OCLOCK,-<IRTYapE( OCLOCK,-<IRTYaS(EVx( OCLOCK,-<IRTYaIX( OCLOCK,-<IRTYhT(x( OCLOCK,-<IRTYa",
   "HREE( OCLOCK,-<IRTYaW(ELVE( OCLOCK,-<IRTYaO( OCLOCK,-<IRTY)@WISEeC(LOSy CIRCsu,pTOUR kTEGRmaDOW",
   "Nμ qD UPμ OPx CIRCsuS,GAPPy CIRCsu,kTEGRm,OPx CIRCsu,Rr( qD sFT.EMICIRCsuS,μ qD sFTμ OPx CIRCsu",
   "S!l CIRCsD pE OVnLAYhT(OP.EMICIRCsu,RIqGs-HEADy OPx CIRCsu@SE( UP,DeBOOK,kTnSEC&p l.nIFS,LOCK l",
   " KEY,MAILBOX leLOWny FLAG,]ISy FLAGaSU(BSET!OR EQUm TOaPnSET!OR EQUm TOhU(MBRELLfNIp l.nIFS!qD.",
   "MASH P_DUCT)@UD!leLrN~,]k,SNOW,TORNADOhWN FACEhO:?C(K(_ACH,TAIL GLASSapUTaFFk,k,L(LISIp=,pceEQU",
   "mS,SIGN@M(Bk~eA(CUTE(eACCxT!zaTpE>a-(G]VE-ACUTjMACRphLMOST EQUm TOe+jzaN(NUITY=,&CLOCKWISEei_W ",
   "+jR~ OVnLAYhSTnISKe+jzhB(kDU z,R(EVE!z,-MACRpaIDGEe+jz@C:(ND]BkDU,Rp!zhyILLfIRCUMFsX ACCxT!zaLO",
   "CKWISEei_W +jR~ OVnLAYaO(MMAe+E!RrazaNJOk~ MACRp!zhYRILLICeDASIA PNEUMATfHUNDRyeMILLIpSt,<OUSqD",
   "StaKAVYKfδfB(jIG YUSaCHjD(jJnVaE(F,L,M,N,R,Sc-TEhFITfGHjHAcRDtaIcjO&FIyefBIG YUS,EhKfLITTs YUS,",
   "MpOG]PH UK,OcMEGvPjS(H*CHvOFTtaT(jS|UcK]kIq I|VjY:?nU,[UaZ(jHEhMILLIpSt,P:(LATmIZA&p,YnOKaOKRY&",
   "jSILI PNEUMATvT(x MILLIpSt,HOUSqD MILLIpSt,ITLOcesFT HmF,Rr HmF@VZMEThD(E(s&p>,VqAGiIeDdaZnOaδf",
   "KfNfPfRfU,VIaSIGN AVAG]HAhIAn^IS!z,-R~aO(T(e+EcesF?Rrhz!sFThTyeACUTE ACCx?G]VE ACCxThUBs(eACUTE",
   " ACCx?BREVE!zaCIRCUMFsX +jG]VE ACCx?kVnTy BREVE!zaLOW LkjMACRp!zaO(Px> z,VnLk|P(ix<^^ +jLUSte+j",
   "zhRI(GHTμu z,NG za&LDEcesFT HmF,Rr HmFhψeLkEe+jzaST_KE OVnLAYhD CIRCUMFsX ACCxTaWN( TACK z,μu@E",
   "(NCLOS~eCIRCs!BACKSLASHaDIAMpD,KEYCAP,S(CREx,QUi|UPWiD POkT~ TRIqGsaQUmSt zaF(nMATfOURυS +|G(LA",
   "GOLI&C δAZU,B(IG YUS,UKYaCHRIV[D(JnV[OB_aF(ITfRITUaGLAGOL[HnU,IcNI&m IZHjOTATyeBIG YUS,SMmL YUS",
   "aZH|KAKO,LJUDIJjMYSLITjNASH[pU,POKOJ[RITS[S(H*TvLOVO,MmL YUSaT(S[VRIDOaUKU,VyjY:&,E(R([UaSTUaO,",
   "UaZ(EMLJfHIVETEhR:(N<AeDIGITeF(IVjOURapjSIX,T(HREjWOaZnOaδfKfNfPfVIhPHEME JOkn,VE(eACCxT!zaTpE>",
   "a-:CUTE-G]VjMACRp@EEKeDImY&KA TpOS,KORpIS,MUSICmePxTASEMjT(ET]SEMjRISEMEhPnISPOMx[YPOν@HO(MO<E&",
   "C +jOK +jRNaI(N(FkITY,VnTyeBR(EVE!zaIDGE zaω iCHe+jz@S zaKA(TAKqA-HI]GqAeSEMI-VOICy.OUND>,VOICy",
   ".OUND>aVYKA +EesF?RrhL:TkesTTn.MmL CAPITmeG,L,M,N,RaSMmL δA!l DIAn^IS,jLPHfO,VaBcETvC!CyILLvD,E",
   "cSH,<aFcLATTxy OPx A +|G,H,IcNSULieD,G,R,ThK,L!l ω ξ&LDjpG.aM,N,O!leDIAn^IS,Lr CxTRmIZA&p.T_KEh",
   "P,Rcez,_TUNDAhScCHWvTcURNy W zaU!leDIAn^IS,Lr CxTRmIZA&p.T_KEhV,W!zaX,ZhEFT(eA(NGse+jzaR_W(e+jz",
   "aHEADe+jz@HA(LF R~e+jzaRPOp +|Pix<^ISe+E sF?z sFTaRrue+jzaTACK zaμei_W OVnLAY,HiPOp l BiB DOWNμ",
   "hIG:TUREesFT HmF!zaRr HmF!zhHT CxTRmIZA&p.T_KE zaO(NGeω.OLIDUS OVnLAY,S(OLIDUS OVnLAY,T_KE OVnL",
   "AYaψ LkE OVnLAYaW LkEhM:CRpcez,sFT HmF!zaRr HmF!zh-:CUTjBREVjG]VEhkUSt zaN(OT &LDE +jUMBnt +|O(",
   "GpEK!+|LD PnMIC δq,DO[NxOjSI[ZATvPx> z,VnLk|P:(LATmIZy λ z,Rx<^^e+jz,OVnLAYhLUSte+jzhR(E(T_FsX ",
   "λ z,VnSE(.OLIDUS OVnLAY,D COMMA +EhI(GHT(ei_W(e+jzaHEADeA(BOVjNDeDOWNuHEAD z,UPuHEAD zhzhHA(LF ",
   "R~e+jzaRPOp +|Pix<^ISe+E Rr,z RraTACK zaμ HiPOp l BiB DOWNμaNGe+jz,OVnLAY@S(EAGULL z,HORTeS(OLI",
   "DUS OVnLAY,T_KE OVnLAYaψ LkE OVnLAYaNAKE z,QUiE B(ELOW,]CKETS +|TRpG CxTRmIZA&p.T_KE z,USPxSIp>",
   "aT(HREEυS +jILDEcez,sFT HmF z,OVnLAY,Rr HmF zhRIPseACUTE ACCx?DO?UNDnDOTaURNy COMMA +|U(P( TACK",
   "e+jzaμu zaR +jS +|ψeLkEe+jza&LD|WI(DEeBRIDGE +jkVnTy BRIDGE zaGGLY LkE zaX(e+jza-X zaZIGZAGe+jz",
   "hE?M*nCImeA?MkUSthP:SS,sMx?OSI&p=,R^SIphN(F(ET& BmL,OUNDy FACjUSy FAC|GRUxT lυ +jICm TAPn,JUNC&",
   "p,STRUC&peSIGN,WORKnaT:kSeASeMEMBn,NORMm.UBG_UP!OR EQUm TOhleLpG ζ.T_KjOVnBi,ψ Bi AT xD OF ζ.T_",
   "KEhkUOUS UNDnLkE=,OUR kTEGRm,_LeKNOBS,SEQUxCE kT_DUCnhVxIxCE.TOR|OK(y RICjI(jNGhP(&CeC:PITm δA(",
   "KHMIMIC KHE[LFvBOHAIRIC KHE[CR(OSSy.HE[YPTOG]MMICeEIjGqGIfN[SHEIhD(mDfE[ImECT-PemEF,HOR[KAPfNIh",
   "EIjF(E[IaGA(MMfNGIvH:TjORIaIAUDfK:PfH(E[IaSIaL(-SHAPy HfAULvM[N[OcLDeCOP&CeAk,DJf^H,GqGIfH:cTaE",
   "[ORIaOOU,SH(E[IMAhNUBIqeN(G[YIaSHIMfWAUhOUaP([SIa_,S:MP[H(E[IMvIMfOUaT:U,HE<|UfVIDfZATvOMBk~eNI",
   " +jSPIRITUSeASPn,sNIS@EPACTeDdhNUMBneEr( HUNDRy,YaF(I(FTY,VE HUNDRyaO(RTY,UR HUNDRyhNkE( HUNDRy",
   ",TYapE HUNDRy,S(EVx( HUNDRy,TYaIX( HUNDRy,TYhT(x,H(IRTY,REE HUNDRyaW(xTY,O HUNDRy@<OUSqDS>aF(]C",
   "&p pE HmF,ULL.TOPaMORPHOLOGICm DIVIDn,OLD NUBIqeDIRECT QU^&p>,FULL.TOP,kDIRECT QU^&p>,VnSE DIVI",
   "DnaS(MmL δA(KHMIMIC KHE[LFvBOHAIRIC KHE[CR(OSSy.HE[YPTOG]MMICeEIjGqGIfN[SHEIhD(mDfE[ImECT-PemEF",
   ",HOR[KAPfNIhEIjF(E[IaGA(MMfNGIvH:TjORIaIAUDfK:PfH(E[IaSIaL(-SHAPy HfAULvM[N[OcLDeCOP&CeAk,DJf^H",
   ",GqGIfH:cTaE[ORIaOOU,SH(E[IMAhNUBIqeN(G[YIaSHIMfWAUhOUaP([SIa_,S:MP[H(E[IMvIMfOUaT:U,HE<|UfVIDf",
   "ZATvYMBOLeK:[HI _aMI _,PI _,S(HIMA.IMfTAU_SaTAU _@Y(sFT=,RrthR(m,NISH VnSE DIVIDn,R^PpDS TOaU(C",
   "H qD LAMP,NT(n(BORjSkKa~ _DeTxS DdhUNIT Dd)@Ps l HEiTaW!FACEhRcAB,E(DIT CiD,SCxT MOpaICKET!BAT ",
   "qD BmLaO(CODILjISSq?SS(eMiK,OFeJnUSmEM,LOR]k|P:TTY lesFT C_SSBi,Rr C_SSBiaOMMEE!l HmF-CIRCs z@y",
   "eFLAGS,NEGA&VE.QUiy LATk CAPITm sTTn P,SWORDSa~ Lq^aWNaU(TCH,ZEI_taY(~eCAT FACjFAC|STm BmLhS[U(",
   "BE _O?CUMBn,NEIFORMeNUMnICteE(reASH,DISH,G^H2,SHi2,U!ViIqTgaViIqTg USSUc3hLAMITEeF(IFTY,ORTYapE",
   " <IRD,TWO <IRDShF(IVEeASH!TxUaB(q2!ViIqTgaURUaDISH,G^H(2,UaS(Hi(2,UaIX<S DISHaU!ViIqTghOUReASH!",
   "TxUaB(q2!ViIqTgaURUaDISH,G^H(2,UaSHi(2,UaU!ViIqTgaViIqTg LIMMUcefBa4@NI(GIDA(^H,MkaNEeASH,DISH,",
   "G^H2,SHi2,U!ViIqTgaViIqTg ILIMMU!f3,4@O(LD ASSYRIq pEeQUiTn,SIX<aNEeB(q2,URUaE(rH ASH,SHE3aG^H(",
   "2,UaHmF GUR,QUiTneASH,GURaSHiU,<IRDeDISH,ViIqTg A@S(EVxeASH,DISH,G^H2,SHi2,U!ViIqTgaViIqTg IMk(",
   "efBa3hHi2 &M^ Gm PLUSeDISH,MkaIXeASH!TxUaDISH,G^H2,SHi2,U!ViIqTgaViIqTg ASH9hT(HREEeASH!TxUaB(q",
   "2,URU!ViIqTghDISH,G^H(2,UaSHi(2!ViIqTgaU!ViIqTghViIqTg ^H(16,21hWOeASH!TxUaB(q2,URUa^HE3,G^H(2,",
   "UaSHi(2,Ua<IRDSeDISH,ViIqTg A)@PUNCTUA&pteDIAGpmeCOLp,QUADCOLp,TRICOLpaOLD ASSYRIq WORD DIVIDn,",
   "ψ COLpaSIGNeA!&M^efBAD,Gq2 TxU,HfIG[LAGi GUNU,MUSH,SAGa2,BceGUNU,&M^eASH2,DUN3 GUNU,GA(L,N2 TxU",
   "aHfI(GI GUNU,MkaLAGAB,NUN!TxUaSH(^H,U2aU PLUS U PLUS Uh2!&M^efBmAG,Gq2 TxU,ME PLUS x,SHA3,TAK4@",
   "D!&M^ ^H2aK!&M^enk2,SHITA PLUS GISHhL!&M^em,DIM2,GISH,HfK:D3,IaSHjUSHaq,EPHaMi!&M^eKUG,SHEhNceO",
   "Vn q,PLUS NAGAeOPPOS~ q PLUS NAGfSQUiya<REE &M^aSH|Pk,R:D!&M^ KURaKABaS(m2,HceKABA TxU,OVn ASHe",
   "OVn ASH!C_SS~ ASH OVn ASH OVn ASHaTUG2 OVn TUG2 TUG2 OVn TUG2 PAPaZIDA TxUa2,GAB@B:cD!&M^ DISH ",
   "TxUaG3,Hi2!&M^eAB2,N[ZAhL!OVn Bm,AGaRcA2hI!&M^efGi,IGI GUNUhUceC_SS~ BU,OVn BUeAB,&M^ NA2,UNhLU",
   "G!OVn BULUGaRc2@D:!&M^ TAK4,GceKISIM5 &M^eA( PLUS MASH,MiaB(mAG,IaG:!PLUS MASHaIcR2aUDaHfIR!PLU",
   "S LUaKAK,L*U!PLUS MASH2,MhNjPAP PLUS PAP,S[TAK4,U(2 PLUSeGIR2,MASHaSHh&M^ KURa3aM,RcA(3,4@IcB,M",
   "!&M^eIG[SHjU U Ua2!&M^ UDhN!KASKm U GUNU DISHaSH!PLUS.HUhUceGUNU,OVn DU,SH^HIGaB!&M^e^H2,SH|2aG",
   "!&M^eA(NSHjSH!AT sFThD(k,UNank2,G*IcR2 GUNU,SHhH*IaIGI GUNU,K:SKm,U(R,SHU2!PLUS KASKm@L:(K-020,",
   "M!&M^ KURhUH PLUS GISHaM:SH,^,IaN[P[S(HjI GUNUhUDaH,Nc3!GUNU!GUNUh4aR2hEceOVn E NUN OVn NUN,&M^",
   " PAPa2!&M^eA PLUS HA PLUS DfGi,KUR,M[PAP,S(m,H|UhDk,GIR,L,NceC_SS~ x,OPPOS~ x,SQUiy,&M^eGq2!TxU",
   "aME@R(x,k2!XhSH2!C_SS~ ^H2aZxceSH^HIG &M^eASH,H[IGI GUNU,LAcLaMEcSaSUa&M^eA!PLUS Lm!&M^ LmaNaBA",
   "D,DUN3 GUNU!GUNUaGUD,HA!GUNUaIGI GUNU,K:SKm!SQUiyaU3aL:cL &M^ Lma[UaS(HjUaU(2,D))@G:!GUNU,2ceOV",
   "n GA2,&M^eA( PLUSeDA PLUS HfHfIGIaB2 TxU PLUS TAB,N!PLUS KAK PLUS vSHc2!PLUS Gm@B:(D,Hi2,R PLUS",
   " RvUR!PLUS ]hD*IcMeGUNU,&M^.HEhU(B,G &M^eIGI GUNU,KASKm@E(L!PLUS LvN!&M^ Gq2 TxUaRxaG:cN2 TxU,R",
   "!PLUSeD[NE@Ic4!PLUS vR2 PLUS.UhH:( PLUSefLU PLUS ^H2aL!PLUS LAhI PLUS L[UB2aI(GI GUNU,SH PLUS H",
   "U PLUS ASHaK:(K,SKmaID!PLUS LmaU(3 PLUS q,SHU2 PLUS KASKmhL:cM!&M^ KURhUHaM(E PLUS x,[USHaN(E!P",
   "LUSeE2,GIhUN!OVn NUNhPfS:(L,RaH(E!PLUS TURaI(D,MhUMaTAK4,UcD!PLUS DUhZIZ2@BAceC_SS~ GABf_TATy N",
   "kETY DEGRE^hD!OVn GAD Gi OVn GiaL!GAD OVn GAD Gi OVn Gi,AMaM,Nc2ceC_SS~ Gq2,OVn Gq2,TxU@Rc3aSHq",
   "aE(22,SHTk!&M^eKUR,U@IceC_SS~ G[&M^ejUh4ceC_SS~ GI4,OVn GI4hDIM,G,R(2!GUNUa3!&M^eA PLUS IG[Gq2 ",
   "TxU,IG[LU PLUS IG[PA@S(m,HceC_SS~ GISH,T(xU,IM^eBAD,GISH C_SS~ GISH,TAK4)))@U!C_SS~ GU,2ceGUNU,",
   "&M^eIGI GUNU,KAK!&M^ IGI GUNUaNUN,Sm PLUS TUG2@DceOVn GUD LUGm,PLUS GISH &M^ TAK4,&M^eA PLUS KU",
   "R,KUR@L,M!&M^.H|Rc7,U(N,SH)@H:ceGUNU,TxU!GUNUhLaI!&M^eASH!OVn HI &M^ ASH,2aBAD,DISH,GAD,Kk,NUN,",
   "SHjUhUcB2!&M^eq,Hm,KASKm,LISH,UDhL2,SHhI!fB,DIM!OVn IDIMeBUR,SQUiyhGcIceDIB,GUNU,OVn IGI.HIR OV",
   "n.HIR UD OVn UD,RI@L!&M^ Gq2 TxU,2aMceC_SS~ IM,OPPOS~ IM,SQUiy,&M^ TAK4akaN,R,SHaK:!&M^eAcD!PLU",
   "S KU3aNSHjSH(2,3hB:(D,LAG,Ra[UaE(Rk2,SH2aG:cL,N2 TxU,R!PLUS.HA3 PLUS AhIcR2,SHceC_SS~ GISH,PLUS",
   ".i@UcD,R7hHI &M^ ASH2,I(G[MaK:cKaIcDhL([UcMhM(E!PLUSeDU,G[TEhI!PLUS NUNUZhN(jUNaP*IaRU,S:cRaH*j",
   "ID,UcLhIG,UHURaT(i,UaU!U U,2,D,MUM &M^ PfRc2aSHaZIa2!C_SS~ KA2aB,D(2,3,4,5!OVn KAD5hK!&M^ IGI G",
   "UNUaLceC_SS~ Km,&M^ BADhM(2,4aP ELAMITjSKmceLAGAB &M^ U OVn LAGAB &M^ U,OVn KASKm LAGAB &M^ U O",
   "Vn LAGAB &M^ U@^H2,I!&M^eBAD,UcDhD,N,S(m,H,IM5!OVn KISIM5@U!OVn HI &M^ ASH2 KU OVn HI &M^ ASH2,",
   "3,4!ViIqTga7,L!GUNUaN,R!OPPOS~ KURaSHU2aWU318aL:cGA(BceSQUiy,&M^eA!PLUSeDA PLUS HfGi,LmaL,N,SH ",
   "ZIDA TxUaB:D,IaDi,x,G:cRa[UD!PLUS GUDhH:cLaI &M^ NUNaI(GI GUNU,M!PLUSeHfLU@K(IcNaU(3,L!PLUS HI ",
   "PLUS A@L:GAB,ISH,UcLhM(E!PLUS xaUSHaNjS(H(E PLUS.UM,ITA PLUS GISHePLUS nk2,TxUaU2!PLUS.HU2hUMaT",
   ":(G,K4aE PLUS A PLUS.U PLUS NvU!PLUSefU PLUS Ua2 PLUS ASH,D,SHaZU OVn ZU@RceGUNU!OVn LAGi GUNU.",
   "H|&M^.HE!PLUS.UM)@HSHU,K-(0(03,2(1,5a30,5(0,1a62,79 OVn LAK-079 GUNU,8(0,1 OVn LAK-081a92a1(30,",
   "42a2(1(0,9a2(0,5,8a38,6(5,6h3(4(3,7,8a8(3,4a90a4(4(1,9!&M^eGU,IG[PAP PLUSeLU3,PAP PLUS LU3aU2 P",
   "LUS BA@5(0,7a70,83,9(0,2,3,5h550,6(08,17!&M^eASH,BAD,DUN3 GUNU GUNU,KU3,LfT(i,|U(2,D,RUDA@36,48",
   "!&M^eDUB,GfIGI!GUNUaN[PAP PLUS PAP PLUS LU3,SH^H PLUS K[U(D,RUDA)@7(24,49hL!&M^ LmaM!&M^ KUR!PL",
   "US RU@IcL,MMU2,SHaU!&M^ BAD,2ceC_SS~ LU2,GUNU &M^ ASH,OPPOS~ LU2,S(H^HIG!&M^ BADaQUiyaT(xU,IM^e",
   "m,BAD,DISH,^H2cePLUS Lm,TxUhGq2 TxU,H(m,I &M^ BADaIM,K:D(2,3!PLUS ASHhIaLA( PLUS ASH,GABaME PLU",
   "S x,N(jUaPAP!PLUS PAP PLUS LU3aS(HU,I( PLUS ASH,K2 PLUS BUhT:K4,UG2))@3,GmceO(PPOS~ LUGm,Vn LUG",
   "maSH^HIGhH,L,M!OVn LUM!Gi OVn Gi)@M:ceGUNU,&M^ TAK4a2,H,R,SHc2hEcScHhI!PLUS ZA7,NaU!OVn MU,G!GU",
   "NUaNSUB,RGU2,SHceC_SS~ MUSH,OVn MUSH!&M^eA PLUS NfGfKAKh&M^efKUR,ZAh3ceGUNU,&M^eA!PLUS DIaD[ZA)",
   "))@N:c2,4,GAcekVnTy,OPPOS~ NAGf&M^.HU TxUaRaM!NU&LLU,2hEceSH^HIG,&M^efUD@I!&M^ j2,M!&M^ GA(N2 T",
   "xU,R PLUS Gq2 TxUhNc9,DA2!&M^eA(N,SH!PLUS ASHhBm,DIM GUNU,G(IcSHaU(D,LhH[K^H2,LAK-050,M:SH,E PL",
   "US Gq2 TxUaN(jUNaPAP PLUS PAP,SHE!PLUS A( q,SH!PLUS ASH@U!PLUS U,2 PLUS ASH,RUDfSH)@SAGaUc11ceO",
   "Vn NU11 BUR OVn BUR,_TATy NkETY DEGRE^,TxUhNceC_SS~ NUN!LAGi OVn LAGiaLAGi &M^eGi,MASH,Sm!OVn N",
   "UN LAGi &M^.maUSHaOVn NUN,TxUaUZceAB2 &M^eASHGAB,B[DUG,GUD,IGI GUNU,KAD3,LfNjSILA3,U2aKISIM5 &M",
   "^ BI!U)))@P:cD,N,Pa^H2!ASTnISKaIceC_SS~ P[&M^eAcBaB([UajIcBaUc2@R(2,IGceOPPOS~ PIRIG,&M^eKm,UD,",
   "ZA)))@R:cBa[UaS:cGceGUNU!&M^ HvNU&LLU,OVn.AG,&M^efDUcBax,HfIGI GUNU,K:K,URaLUM,M[NUN,S(m,H(E AT",
   " sF?IDhTA(B,K4aU(2,B,M,R,SH)@L!LAGAB &M^ ASH2aNGA2,RaH:c3!&M^efBAD,GISH,NjSHU2,TUR,U!PLUS A@6!T",
   "xUaB6,R2aEceHU,OVn.HEceGAD OVn GAD Gi OVn Gi,TAB OVn TAB Gi OVn GihPLUSeHUB2,NAM2,SihG9,N,SHc2,",
   "LAMhI(D!&M^efIMhM!&M^efB(m,ULUGaDk,Gi,IGI!GUNUaKUSHU2,LUL,MUG,SmhNIG,RceOVn.HIR BUR OVn BUR,TxU",
   "hTvU!OVn kVnTy.HU,2!PLUSeDUG &M^ N[E2 &M^ qhBURhIceGUNU,&M^ TAK4aGc4!OVn.IG4.HU2hK2,LA3aU!OVn.U",
   ",Dc2aHUR,McASHaRc9@T:ceASTnISK,GUNU,&M^eH[MIhBceOVn TAB NI OVn NI DISH OVn DISH,SQUiyhG!&M^eB[G",
   "UD,SH(jUaTUG2,UDhK4!PLUS.AGaRaE!GUNUaI!TxU,2,L,RceOVn &R!GAD OVn GAD Gi OVn Gia&M^ TAK4@UcG2,K,",
   "M!&M^eGq2 TxU,<REE DISHhR!OVn TUR ZA OVn ZA@UceGUD,OVn UePA OVn PA Gi OVn Gi,SUR OVn.UR,U REVnS",
   "y OVn U REVnSyaU!Uh2,B,DceGUNU,KUSHU2,SH^HIG!&M^ BADa&M^eBAD,M[U PLUS U PLUS U!GUNU@UGaM!&M^eLA",
   "GAB,ME!PLUS DvSHA3,UaBk,UM!&M^eKASKm,PA@N!GUNUaRceC_SS~ UR,SH^HIGa2cekVnTy,&M^eA( PLUSeHfNvLaHf",
   "NUN,U(2!PLUSeASH,BIhD)@4,Ic3aU!&M^eAcSHGABaBi,D(iA3,UNaG:cL,N2 TxU,RaUaHfI(G[M,SHaK[L:K-668,U(3",
   ",MhMk,PfS(HjIG4aTU,U( PLUS GUD,D,RUDAhDA!&M^ U@SH!&M^efKUcRaTAK4a2,UMX,XaTUK[Z(3!&M^ KASKmaUhZ:",
   "ceSQUiy &M^ KUR,TxUa7,G,MXaE2,I!OVn Z[3,B!KABA TxUaG,Z2aU!OVn ZU PLUS.i,5!&M^ef<REE DISH TxUhBU",
   "R,M)@P(ep τ.QUijl.T]WaCAKjIDOaR(L(~.TpjYeB]CKET EXTxSIp,LO(GICmeqD,ORaOP@R(xCYeEXCHqGjSIGNaY qD",
   " RIC|Vy.TEM PiAG]PHt ORNAMxTaST(iD,OMSaT OF MEATaY(CLpjLkDRICITY,PR(IOT.YLLABsefj[J*OaK*j[O,UaL",
   "*j[O,UaM*j[O,UaN*j[O,UaO,P*j[O,UaR*j[O,UaS*j[O,UaT*j[O,UaU,W*j[OaX*|Z*OhO-MkOqt CM(0(0(1,2,4,5,",
   "πa1(0,1,2cBa3,5,7,9a2(1,3,4,5,πa3(0,3,4,5,πa4(0,1,4,6,7,9a5(0,;,6,8,9a6(0,1,2,3,4,πa7(0,;cBa6,8",
   ",9a8(ba9(0,1,2,4,5,πh1(0(0,;,7,8,9a1(0,2,4h30(1,2@RILLICeCAPITm L(ETTneA!leBREVjDIAn^ISaBKHASIq",
   "eCHE!l D^CxDnaDZjHvsUT KvB:(RRy O!l DIAn^ISaSHKIR KvjI(G YUS,NOCULi OasNDy YUS,_AD OMEGfYELORUS",
   "SIq-UK]kIq IaC(CHjHE!leD(^CxDn,IAn^ISaψ.T_KEhLOSy LITTs YUS,_SSy OaD(CHjjJEcRVaOUBseMpOCULi O,O",
   "aWjZ(EcLOaHjWjZ(jHE@E!l DIAn^IS,F,L!leD^CxDn,λ,ξλ,TAILhM!l TAILaN!leD^CxDn,λ,sFT λ,ξλ,TAILhR!l ",
   "&CKaS!l D^CxDnhFITfG(HE!leD^CxDn,ξλ,ST_KE!qD λaUPTURNhJ|H:!leD^CxDn,λ,ST_K|RDtaW|I!leDIAn^IS,G]",
   "VjMACRpaE!leBREVjG]VEhOcT*IFIyefBIG YUS,CLOSy LITTs YUS,jLITTs YUS,YAT@ZHITSA!l ω G]VE ACCxThJj",
   "K:!leD^CxDn,λ,ST_Kjψ.T_KEhHAKASSIq CHjJjO(MIeD(jJjZJ|LJjNJjSJjTJjZJ|PPvSIaL(HfITTs YUS,J|MpO(CU",
   "Li O,G]PH UKaN(EUTRm Yn,J|O!l DIAn^IS,MEGA!l &TLOaTaP(E!leD^CxDn,ξλhSIaQfR(EVnSyeDZjTSjYU,Z|HfO",
   "UND OMEGvS(CHWA!l DIAn^ISaEMISOFTt,H*CHfHA!l D^CxDnaORTeI!l TAILaUaW|OFTeDjE(L,MaSIGNaT]r U!l.T",
   "_KEhT(CHjE!leD^CxDn,ξλhS(jHjSjW|W|U!leD(IAn^IS,OUBs ACUT|MACRpaKc]kIq IEhVjWjY:cjTanU!leBACK Yn",
   ",DIAn^ISh[N,UaZ(E!l D(^CxDn,IAn^ISaMLYvH(E!leBREVjD(^CxDn,IAn^IS@WE@IGATUREeA Ijx GHjTE TSEhKAV",
   "YKfδMUL&OCULi O,PmOCHKfSMmL CAPITm ELaPAYnOK,SMmL L(ETTneA!leBREVjDIAn^ISaBKHASIqeCHE!l D^CxDna",
   "DZjHvsUT KvB:(RRy O!l DIAn^ISaSHKIR KvjI(G YUS,NOCULi OasNDy YUS,_AD OMEGfYELORUSSIq-UK]kIq IaC",
   "(CHjHE!leD(^CxDn,IAn^ISaψ.T_KEhLOSy LITTs YUS,_SSy OaD(CHjjJEcRVaOUBseMpOCULi O,OaWjZ(EcLOaHjWj",
   "Z(jHE@E!l DIAn^IS,F,L!leD^CxDn,λ,ξλ,TAILhM!l TAILaN!leD^CxDn,λ,sFT λ,ξλ,TAILhR!l &CKaS!l D^CxDn",
   "hFITfG(HE!leD^CxDn,ξλ,ST_KE!qD λaUPTURNhJ|H:!leD^CxDn,λ,ST_K|RDtaW|I!leDIAn^IS,G]VjMACRpaE!leBR",
   "EVjG]VEhOcT*IFIyefBIG YUS,CLOSy LITTs YUS,jLITTs YUS,YAT@ZHITSA!l ω G]VE ACCxThJjK:!leD^CxDn,λ,",
   "ST_Kjψ.T_KEhHAKASSIq CHjJjO(MIeD(jJjZJ|LJjNJjSJjTJjZJ|PPvSIaL(HfITTs YUS,JjpG-sGGy D|MpO(CULi O",
   ",G]PH UKaN(i_W O,EUTRm Yn,J|O!l DIAn^IS,MEGA!l &TLOaTaP(mOCHKfE!leD^CxDn,ξλhSIaQfR(EVnSyeDZjTSj",
   "YU,Z|HfOUND( OMEGfy VEhS(CHWA!l DIAn^ISaEMISOFTt,H*CHfHA!l D^CxDnaORTeI!l TAILaUaW|OFTeDjE(L,Ma",
   "SIGNaT]r U!l.T_KEhT(mLeHiDt,TjYATaCHjE!leD^CxDn,ξλhHREE-sGGy TjS(jHjSjW|W|U!leD(IAn^IS,OUBs ACU",
   "T|MACRpaKc]kIq I|NBsNDy UKaVjW(jIDE ^aY:cjTanU!leBACK Yn,DIAn^ISh[N,UaZ(E!l D(^CxDn,IAn^ISaMLYv",
   "H(E!leBREVjD(^CxDn,IAn^IS@WE@IGATUREeA Ijx GHjTE TSEh<OUSqDSt)))"]

end ScriptLint.Text
