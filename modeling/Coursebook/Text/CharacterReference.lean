/-
Character references: `&name;`, `&#decimal;` and `&#xhexadecimal;`. The
names are those of HTML; each table entry is a name and the code points it
stands for.
-/
import Coursebook.Text.Table

namespace Coursebook.Text

def namedReferences : List (Text × Text) :=
  (words table.toList).map fun w => let (a, bs) := cutPair ':' w; (a, (splitOn ['+'] bs).map fun b => Char.ofNat (hexValue b))
where
  table :=
  "AElig:00C6 AMP:0026 Aacute:00C1 Abreve:0102 Acirc:00C2 Acy:0410 Afr:1D504 Agrave:00C0 Alpha:0391
   Amacr:0100 And:2A53 Aogon:0104 Aopf:1D538 ApplyFunction:2061 Aring:00C5 Ascr:1D49C Assign:2254
   Atilde:00C3 Auml:00C4 Backslash:2216 Barv:2AE7 Barwed:2306 Bcy:0411 Because:2235 Bernoullis:212C
   Beta:0392 Bfr:1D505 Bopf:1D539 Breve:02D8 Bscr:212C Bumpeq:224E CHcy:0427 COPY:00A9 Cacute:0106
   Cap:22D2 CapitalDifferentialD:2145 Cayleys:212D Ccaron:010C Ccedil:00C7 Ccirc:0108 Cconint:2230
   Cdot:010A Cedilla:00B8 CenterDot:00B7 Cfr:212D Chi:03A7 CircleDot:2299 CircleMinus:2296
   CirclePlus:2295 CircleTimes:2297 ClockwiseContourIntegral:2232 CloseCurlyDoubleQuote:201D
   CloseCurlyQuote:2019 Colon:2237 Colone:2A74 Congruent:2261 Conint:222F ContourIntegral:222E
   Copf:2102 Coproduct:2210 CounterClockwiseContourIntegral:2233 Cross:2A2F Cscr:1D49E Cup:22D3
   CupCap:224D DD:2145 DDotrahd:2911 DJcy:0402 DScy:0405 DZcy:040F Dagger:2021 Darr:21A1 Dashv:2AE4
   Dcaron:010E Dcy:0414 Del:2207 Delta:0394 Dfr:1D507 DiacriticalAcute:00B4 DiacriticalDot:02D9
   DiacriticalDoubleAcute:02DD DiacriticalGrave:0060 DiacriticalTilde:02DC Diamond:22C4
   DifferentialD:2146 Dopf:1D53B Dot:00A8 DotDot:20DC DotEqual:2250 DoubleContourIntegral:222F
   DoubleDot:00A8 DoubleDownArrow:21D3 DoubleLeftArrow:21D0 DoubleLeftRightArrow:21D4
   DoubleLeftTee:2AE4 DoubleLongLeftArrow:27F8 DoubleLongLeftRightArrow:27FA
   DoubleLongRightArrow:27F9 DoubleRightArrow:21D2 DoubleRightTee:22A8 DoubleUpArrow:21D1
   DoubleUpDownArrow:21D5 DoubleVerticalBar:2225 DownArrow:2193 DownArrowBar:2913
   DownArrowUpArrow:21F5 DownBreve:0311 DownLeftRightVector:2950 DownLeftTeeVector:295E
   DownLeftVector:21BD DownLeftVectorBar:2956 DownRightTeeVector:295F DownRightVector:21C1
   DownRightVectorBar:2957 DownTee:22A4 DownTeeArrow:21A7 Downarrow:21D3 Dscr:1D49F Dstrok:0110
   ENG:014A ETH:00D0 Eacute:00C9 Ecaron:011A Ecirc:00CA Ecy:042D Edot:0116 Efr:1D508 Egrave:00C8
   Element:2208 Emacr:0112 EmptySmallSquare:25FB EmptyVerySmallSquare:25AB Eogon:0118 Eopf:1D53C
   Epsilon:0395 Equal:2A75 EqualTilde:2242 Equilibrium:21CC Escr:2130 Esim:2A73 Eta:0397 Euml:00CB
   Exists:2203 ExponentialE:2147 Fcy:0424 Ffr:1D509 FilledSmallSquare:25FC FilledVerySmallSquare:25AA
   Fopf:1D53D ForAll:2200 Fouriertrf:2131 Fscr:2131 GJcy:0403 GT:003E Gamma:0393 Gammad:03DC
   Gbreve:011E Gcedil:0122 Gcirc:011C Gcy:0413 Gdot:0120 Gfr:1D50A Gg:22D9 Gopf:1D53E
   GreaterEqual:2265 GreaterEqualLess:22DB GreaterFullEqual:2267 GreaterGreater:2AA2 GreaterLess:2277
   GreaterSlantEqual:2A7E GreaterTilde:2273 Gscr:1D4A2 Gt:226B HARDcy:042A Hacek:02C7 Hat:005E
   Hcirc:0124 Hfr:210C HilbertSpace:210B Hopf:210D HorizontalLine:2500 Hscr:210B Hstrok:0126
   HumpDownHump:224E HumpEqual:224F IEcy:0415 IJlig:0132 IOcy:0401 Iacute:00CD Icirc:00CE Icy:0418
   Idot:0130 Ifr:2111 Igrave:00CC Im:2111 Imacr:012A ImaginaryI:2148 Implies:21D2 Int:222C
   Integral:222B Intersection:22C2 InvisibleComma:2063 InvisibleTimes:2062 Iogon:012E Iopf:1D540
   Iota:0399 Iscr:2110 Itilde:0128 Iukcy:0406 Iuml:00CF Jcirc:0134 Jcy:0419 Jfr:1D50D Jopf:1D541
   Jscr:1D4A5 Jsercy:0408 Jukcy:0404 KHcy:0425 KJcy:040C Kappa:039A Kcedil:0136 Kcy:041A Kfr:1D50E
   Kopf:1D542 Kscr:1D4A6 LJcy:0409 LT:003C Lacute:0139 Lambda:039B Lang:27EA Laplacetrf:2112
   Larr:219E Lcaron:013D Lcedil:013B Lcy:041B LeftAngleBracket:27E8 LeftArrow:2190 LeftArrowBar:21E4
   LeftArrowRightArrow:21C6 LeftCeiling:2308 LeftDoubleBracket:27E6 LeftDownTeeVector:2961
   LeftDownVector:21C3 LeftDownVectorBar:2959 LeftFloor:230A LeftRightArrow:2194 LeftRightVector:294E
   LeftTee:22A3 LeftTeeArrow:21A4 LeftTeeVector:295A LeftTriangle:22B2 LeftTriangleBar:29CF
   LeftTriangleEqual:22B4 LeftUpDownVector:2951 LeftUpTeeVector:2960 LeftUpVector:21BF
   LeftUpVectorBar:2958 LeftVector:21BC LeftVectorBar:2952 Leftarrow:21D0 Leftrightarrow:21D4
   LessEqualGreater:22DA LessFullEqual:2266 LessGreater:2276 LessLess:2AA1 LessSlantEqual:2A7D
   LessTilde:2272 Lfr:1D50F Ll:22D8 Lleftarrow:21DA Lmidot:013F LongLeftArrow:27F5
   LongLeftRightArrow:27F7 LongRightArrow:27F6 Longleftarrow:27F8 Longleftrightarrow:27FA
   Longrightarrow:27F9 Lopf:1D543 LowerLeftArrow:2199 LowerRightArrow:2198 Lscr:2112 Lsh:21B0
   Lstrok:0141 Lt:226A Map:2905 Mcy:041C MediumSpace:205F Mellintrf:2133 Mfr:1D510 MinusPlus:2213
   Mopf:1D544 Mscr:2133 Mu:039C NJcy:040A Nacute:0143 Ncaron:0147 Ncedil:0145 Ncy:041D
   NegativeMediumSpace:200B NegativeThickSpace:200B NegativeThinSpace:200B NegativeVeryThinSpace:200B
   NestedGreaterGreater:226B NestedLessLess:226A NewLine:000A Nfr:1D511 NoBreak:2060
   NonBreakingSpace:00A0 Nopf:2115 Not:2AEC NotCongruent:2262 NotCupCap:226D
   NotDoubleVerticalBar:2226 NotElement:2209 NotEqual:2260 NotEqualTilde:2242+0338 NotExists:2204
   NotGreater:226F NotGreaterEqual:2271 NotGreaterFullEqual:2267+0338 NotGreaterGreater:226B+0338
   NotGreaterLess:2279 NotGreaterSlantEqual:2A7E+0338 NotGreaterTilde:2275 NotHumpDownHump:224E+0338
   NotHumpEqual:224F+0338 NotLeftTriangle:22EA NotLeftTriangleBar:29CF+0338 NotLeftTriangleEqual:22EC
   NotLess:226E NotLessEqual:2270 NotLessGreater:2278 NotLessLess:226A+0338
   NotLessSlantEqual:2A7D+0338 NotLessTilde:2274 NotNestedGreaterGreater:2AA2+0338
   NotNestedLessLess:2AA1+0338 NotPrecedes:2280 NotPrecedesEqual:2AAF+0338 NotPrecedesSlantEqual:22E0
   NotReverseElement:220C NotRightTriangle:22EB NotRightTriangleBar:29D0+0338
   NotRightTriangleEqual:22ED NotSquareSubset:228F+0338 NotSquareSubsetEqual:22E2
   NotSquareSuperset:2290+0338 NotSquareSupersetEqual:22E3 NotSubset:2282+20D2 NotSubsetEqual:2288
   NotSucceeds:2281 NotSucceedsEqual:2AB0+0338 NotSucceedsSlantEqual:22E1 NotSucceedsTilde:227F+0338
   NotSuperset:2283+20D2 NotSupersetEqual:2289 NotTilde:2241 NotTildeEqual:2244
   NotTildeFullEqual:2247 NotTildeTilde:2249 NotVerticalBar:2224 Nscr:1D4A9 Ntilde:00D1 Nu:039D
   OElig:0152 Oacute:00D3 Ocirc:00D4 Ocy:041E Odblac:0150 Ofr:1D512 Ograve:00D2 Omacr:014C Omega:03A9
   Omicron:039F Oopf:1D546 OpenCurlyDoubleQuote:201C OpenCurlyQuote:2018 Or:2A54 Oscr:1D4AA
   Oslash:00D8 Otilde:00D5 Otimes:2A37 Ouml:00D6 OverBar:203E OverBrace:23DE OverBracket:23B4
   OverParenthesis:23DC PartialD:2202 Pcy:041F Pfr:1D513 Phi:03A6 Pi:03A0 PlusMinus:00B1
   Poincareplane:210C Popf:2119 Pr:2ABB Precedes:227A PrecedesEqual:2AAF PrecedesSlantEqual:227C
   PrecedesTilde:227E Prime:2033 Product:220F Proportion:2237 Proportional:221D Pscr:1D4AB Psi:03A8
   QUOT:0022 Qfr:1D514 Qopf:211A Qscr:1D4AC RBarr:2910 REG:00AE Racute:0154 Rang:27EB Rarr:21A0
   Rarrtl:2916 Rcaron:0158 Rcedil:0156 Rcy:0420 Re:211C ReverseElement:220B ReverseEquilibrium:21CB
   ReverseUpEquilibrium:296F Rfr:211C Rho:03A1 RightAngleBracket:27E9 RightArrow:2192
   RightArrowBar:21E5 RightArrowLeftArrow:21C4 RightCeiling:2309 RightDoubleBracket:27E7
   RightDownTeeVector:295D RightDownVector:21C2 RightDownVectorBar:2955 RightFloor:230B RightTee:22A2
   RightTeeArrow:21A6 RightTeeVector:295B RightTriangle:22B3 RightTriangleBar:29D0
   RightTriangleEqual:22B5 RightUpDownVector:294F RightUpTeeVector:295C RightUpVector:21BE
   RightUpVectorBar:2954 RightVector:21C0 RightVectorBar:2953 Rightarrow:21D2 Ropf:211D
   RoundImplies:2970 Rrightarrow:21DB Rscr:211B Rsh:21B1 RuleDelayed:29F4 SHCHcy:0429 SHcy:0428
   SOFTcy:042C Sacute:015A Sc:2ABC Scaron:0160 Scedil:015E Scirc:015C Scy:0421 Sfr:1D516
   ShortDownArrow:2193 ShortLeftArrow:2190 ShortRightArrow:2192 ShortUpArrow:2191 Sigma:03A3
   SmallCircle:2218 Sopf:1D54A Sqrt:221A Square:25A1 SquareIntersection:2293 SquareSubset:228F
   SquareSubsetEqual:2291 SquareSuperset:2290 SquareSupersetEqual:2292 SquareUnion:2294 Sscr:1D4AE
   Star:22C6 Sub:22D0 Subset:22D0 SubsetEqual:2286 Succeeds:227B SucceedsEqual:2AB0
   SucceedsSlantEqual:227D SucceedsTilde:227F SuchThat:220B Sum:2211 Sup:22D1 Superset:2283
   SupersetEqual:2287 Supset:22D1 THORN:00DE TRADE:2122 TSHcy:040B TScy:0426 Tab:0009 Tau:03A4
   Tcaron:0164 Tcedil:0162 Tcy:0422 Tfr:1D517 Therefore:2234 Theta:0398 ThickSpace:205F+200A
   ThinSpace:2009 Tilde:223C TildeEqual:2243 TildeFullEqual:2245 TildeTilde:2248 Topf:1D54B
   TripleDot:20DB Tscr:1D4AF Tstrok:0166 Uacute:00DA Uarr:219F Uarrocir:2949 Ubrcy:040E Ubreve:016C
   Ucirc:00DB Ucy:0423 Udblac:0170 Ufr:1D518 Ugrave:00D9 Umacr:016A UnderBar:005F UnderBrace:23DF
   UnderBracket:23B5 UnderParenthesis:23DD Union:22C3 UnionPlus:228E Uogon:0172 Uopf:1D54C
   UpArrow:2191 UpArrowBar:2912 UpArrowDownArrow:21C5 UpDownArrow:2195 UpEquilibrium:296E UpTee:22A5
   UpTeeArrow:21A5 Uparrow:21D1 Updownarrow:21D5 UpperLeftArrow:2196 UpperRightArrow:2197 Upsi:03D2
   Upsilon:03A5 Uring:016E Uscr:1D4B0 Utilde:0168 Uuml:00DC VDash:22AB Vbar:2AEB Vcy:0412 Vdash:22A9
   Vdashl:2AE6 Vee:22C1 Verbar:2016 Vert:2016 VerticalBar:2223 VerticalLine:007C
   VerticalSeparator:2758 VerticalTilde:2240 VeryThinSpace:200A Vfr:1D519 Vopf:1D54D Vscr:1D4B1
   Vvdash:22AA Wcirc:0174 Wedge:22C0 Wfr:1D51A Wopf:1D54E Wscr:1D4B2 Xfr:1D51B Xi:039E Xopf:1D54F
   Xscr:1D4B3 YAcy:042F YIcy:0407 YUcy:042E Yacute:00DD Ycirc:0176 Ycy:042B Yfr:1D51C Yopf:1D550
   Yscr:1D4B4 Yuml:0178 ZHcy:0416 Zacute:0179 Zcaron:017D Zcy:0417 Zdot:017B ZeroWidthSpace:200B
   Zeta:0396 Zfr:2128 Zopf:2124 Zscr:1D4B5 aacute:00E1 abreve:0103 ac:223E acE:223E+0333 acd:223F
   acirc:00E2 acute:00B4 acy:0430 aelig:00E6 af:2061 afr:1D51E agrave:00E0 alefsym:2135 aleph:2135
   alpha:03B1 amacr:0101 amalg:2A3F amp:0026 and:2227 andand:2A55 andd:2A5C andslope:2A58 andv:2A5A
   ang:2220 ange:29A4 angle:2220 angmsd:2221 angmsdaa:29A8 angmsdab:29A9 angmsdac:29AA angmsdad:29AB
   angmsdae:29AC angmsdaf:29AD angmsdag:29AE angmsdah:29AF angrt:221F angrtvb:22BE angrtvbd:299D
   angsph:2222 angst:00C5 angzarr:237C aogon:0105 aopf:1D552 ap:2248 apE:2A70 apacir:2A6F ape:224A
   apid:224B apos:0027 approx:2248 approxeq:224A aring:00E5 ascr:1D4B6 ast:002A asymp:2248
   asympeq:224D atilde:00E3 auml:00E4 awconint:2233 awint:2A11 bNot:2AED backcong:224C
   backepsilon:03F6 backprime:2035 backsim:223D backsimeq:22CD barvee:22BD barwed:2305 barwedge:2305
   bbrk:23B5 bbrktbrk:23B6 bcong:224C bcy:0431 bdquo:201E becaus:2235 because:2235 bemptyv:29B0
   bepsi:03F6 bernou:212C beta:03B2 beth:2136 between:226C bfr:1D51F bigcap:22C2 bigcirc:25EF
   bigcup:22C3 bigodot:2A00 bigoplus:2A01 bigotimes:2A02 bigsqcup:2A06 bigstar:2605
   bigtriangledown:25BD bigtriangleup:25B3 biguplus:2A04 bigvee:22C1 bigwedge:22C0 bkarow:290D
   blacklozenge:29EB blacksquare:25AA blacktriangle:25B4 blacktriangledown:25BE
   blacktriangleleft:25C2 blacktriangleright:25B8 blank:2423 blk12:2592 blk14:2591 blk34:2593
   block:2588 bne:003D+20E5 bnequiv:2261+20E5 bnot:2310 bopf:1D553 bot:22A5 bottom:22A5 bowtie:22C8
   boxDL:2557 boxDR:2554 boxDl:2556 boxDr:2553 boxH:2550 boxHD:2566 boxHU:2569 boxHd:2564 boxHu:2567
   boxUL:255D boxUR:255A boxUl:255C boxUr:2559 boxV:2551 boxVH:256C boxVL:2563 boxVR:2560 boxVh:256B
   boxVl:2562 boxVr:255F boxbox:29C9 boxdL:2555 boxdR:2552 boxdl:2510 boxdr:250C boxh:2500 boxhD:2565
   boxhU:2568 boxhd:252C boxhu:2534 boxminus:229F boxplus:229E boxtimes:22A0 boxuL:255B boxuR:2558
   boxul:2518 boxur:2514 boxv:2502 boxvH:256A boxvL:2561 boxvR:255E boxvh:253C boxvl:2524 boxvr:251C
   bprime:2035 breve:02D8 brvbar:00A6 bscr:1D4B7 bsemi:204F bsim:223D bsime:22CD bsol:005C bsolb:29C5
   bsolhsub:27C8 bull:2022 bullet:2022 bump:224E bumpE:2AAE bumpe:224F bumpeq:224F cacute:0107
   cap:2229 capand:2A44 capbrcup:2A49 capcap:2A4B capcup:2A47 capdot:2A40 caps:2229+FE00 caret:2041
   caron:02C7 ccaps:2A4D ccaron:010D ccedil:00E7 ccirc:0109 ccups:2A4C ccupssm:2A50 cdot:010B
   cedil:00B8 cemptyv:29B2 cent:00A2 centerdot:00B7 cfr:1D520 chcy:0447 check:2713 checkmark:2713
   chi:03C7 cir:25CB cirE:29C3 circ:02C6 circeq:2257 circlearrowleft:21BA circlearrowright:21BB
   circledR:00AE circledS:24C8 circledast:229B circledcirc:229A circleddash:229D cire:2257
   cirfnint:2A10 cirmid:2AEF cirscir:29C2 clubs:2663 clubsuit:2663 colon:003A colone:2254
   coloneq:2254 comma:002C commat:0040 comp:2201 compfn:2218 complement:2201 complexes:2102 cong:2245
   congdot:2A6D conint:222E copf:1D554 coprod:2210 copy:00A9 copysr:2117 crarr:21B5 cross:2717
   cscr:1D4B8 csub:2ACF csube:2AD1 csup:2AD0 csupe:2AD2 ctdot:22EF cudarrl:2938 cudarrr:2935
   cuepr:22DE cuesc:22DF cularr:21B6 cularrp:293D cup:222A cupbrcap:2A48 cupcap:2A46 cupcup:2A4A
   cupdot:228D cupor:2A45 cups:222A+FE00 curarr:21B7 curarrm:293C curlyeqprec:22DE curlyeqsucc:22DF
   curlyvee:22CE curlywedge:22CF curren:00A4 curvearrowleft:21B6 curvearrowright:21B7 cuvee:22CE
   cuwed:22CF cwconint:2232 cwint:2231 cylcty:232D dArr:21D3 dHar:2965 dagger:2020 daleth:2138
   darr:2193 dash:2010 dashv:22A3 dbkarow:290F dblac:02DD dcaron:010F dcy:0434 dd:2146 ddagger:2021
   ddarr:21CA ddotseq:2A77 deg:00B0 delta:03B4 demptyv:29B1 dfisht:297F dfr:1D521 dharl:21C3
   dharr:21C2 diam:22C4 diamond:22C4 diamondsuit:2666 diams:2666 die:00A8 digamma:03DD disin:22F2
   div:00F7 divide:00F7 divideontimes:22C7 divonx:22C7 djcy:0452 dlcorn:231E dlcrop:230D dollar:0024
   dopf:1D555 dot:02D9 doteq:2250 doteqdot:2251 dotminus:2238 dotplus:2214 dotsquare:22A1
   doublebarwedge:2306 downarrow:2193 downdownarrows:21CA downharpoonleft:21C3 downharpoonright:21C2
   drbkarow:2910 drcorn:231F drcrop:230C dscr:1D4B9 dscy:0455 dsol:29F6 dstrok:0111 dtdot:22F1
   dtri:25BF dtrif:25BE duarr:21F5 duhar:296F dwangle:29A6 dzcy:045F dzigrarr:27FF eDDot:2A77
   eDot:2251 eacute:00E9 easter:2A6E ecaron:011B ecir:2256 ecirc:00EA ecolon:2255 ecy:044D edot:0117
   ee:2147 efDot:2252 efr:1D522 eg:2A9A egrave:00E8 egs:2A96 egsdot:2A98 el:2A99 elinters:23E7
   ell:2113 els:2A95 elsdot:2A97 emacr:0113 empty:2205 emptyset:2205 emptyv:2205 emsp:2003
   emsp13:2004 emsp14:2005 eng:014B ensp:2002 eogon:0119 eopf:1D556 epar:22D5 eparsl:29E3 eplus:2A71
   epsi:03B5 epsilon:03B5 epsiv:03F5 eqcirc:2256 eqcolon:2255 eqsim:2242 eqslantgtr:2A96
   eqslantless:2A95 equals:003D equest:225F equiv:2261 equivDD:2A78 eqvparsl:29E5 erDot:2253
   erarr:2971 escr:212F esdot:2250 esim:2242 eta:03B7 eth:00F0 euml:00EB euro:20AC excl:0021
   exist:2203 expectation:2130 exponentiale:2147 fallingdotseq:2252 fcy:0444 female:2640 ffilig:FB03
   fflig:FB00 ffllig:FB04 ffr:1D523 filig:FB01 fjlig:0066+006A flat:266D fllig:FB02 fltns:25B1
   fnof:0192 fopf:1D557 forall:2200 fork:22D4 forkv:2AD9 fpartint:2A0D frac12:00BD frac13:2153
   frac14:00BC frac15:2155 frac16:2159 frac18:215B frac23:2154 frac25:2156 frac34:00BE frac35:2157
   frac38:215C frac45:2158 frac56:215A frac58:215D frac78:215E frasl:2044 frown:2322 fscr:1D4BB
   gE:2267 gEl:2A8C gacute:01F5 gamma:03B3 gammad:03DD gap:2A86 gbreve:011F gcirc:011D gcy:0433
   gdot:0121 ge:2265 gel:22DB geq:2265 geqq:2267 geqslant:2A7E ges:2A7E gescc:2AA9 gesdot:2A80
   gesdoto:2A82 gesdotol:2A84 gesl:22DB+FE00 gesles:2A94 gfr:1D524 gg:226B ggg:22D9 gimel:2137
   gjcy:0453 gl:2277 glE:2A92 gla:2AA5 glj:2AA4 gnE:2269 gnap:2A8A gnapprox:2A8A gne:2A88 gneq:2A88
   gneqq:2269 gnsim:22E7 gopf:1D558 grave:0060 gscr:210A gsim:2273 gsime:2A8E gsiml:2A90 gt:003E
   gtcc:2AA7 gtcir:2A7A gtdot:22D7 gtlPar:2995 gtquest:2A7C gtrapprox:2A86 gtrarr:2978 gtrdot:22D7
   gtreqless:22DB gtreqqless:2A8C gtrless:2277 gtrsim:2273 gvertneqq:2269+FE00 gvnE:2269+FE00
   hArr:21D4 hairsp:200A half:00BD hamilt:210B hardcy:044A harr:2194 harrcir:2948 harrw:21AD
   hbar:210F hcirc:0125 hearts:2665 heartsuit:2665 hellip:2026 hercon:22B9 hfr:1D525 hksearow:2925
   hkswarow:2926 hoarr:21FF homtht:223B hookleftarrow:21A9 hookrightarrow:21AA hopf:1D559 horbar:2015
   hscr:1D4BD hslash:210F hstrok:0127 hybull:2043 hyphen:2010 iacute:00ED ic:2063 icirc:00EE icy:0438
   iecy:0435 iexcl:00A1 iff:21D4 ifr:1D526 igrave:00EC ii:2148 iiiint:2A0C iiint:222D iinfin:29DC
   iiota:2129 ijlig:0133 imacr:012B image:2111 imagline:2110 imagpart:2111 imath:0131 imof:22B7
   imped:01B5 in:2208 incare:2105 infin:221E infintie:29DD inodot:0131 int:222B intcal:22BA
   integers:2124 intercal:22BA intlarhk:2A17 intprod:2A3C iocy:0451 iogon:012F iopf:1D55A iota:03B9
   iprod:2A3C iquest:00BF iscr:1D4BE isin:2208 isinE:22F9 isindot:22F5 isins:22F4 isinsv:22F3
   isinv:2208 it:2062 itilde:0129 iukcy:0456 iuml:00EF jcirc:0135 jcy:0439 jfr:1D527 jmath:0237
   jopf:1D55B jscr:1D4BF jsercy:0458 jukcy:0454 kappa:03BA kappav:03F0 kcedil:0137 kcy:043A kfr:1D528
   kgreen:0138 khcy:0445 kjcy:045C kopf:1D55C kscr:1D4C0 lAarr:21DA lArr:21D0 lAtail:291B lBarr:290E
   lE:2266 lEg:2A8B lHar:2962 lacute:013A laemptyv:29B4 lagran:2112 lambda:03BB lang:27E8 langd:2991
   langle:27E8 lap:2A85 laquo:00AB larr:2190 larrb:21E4 larrbfs:291F larrfs:291D larrhk:21A9
   larrlp:21AB larrpl:2939 larrsim:2973 larrtl:21A2 lat:2AAB latail:2919 late:2AAD lates:2AAD+FE00
   lbarr:290C lbbrk:2772 lbrace:007B lbrack:005B lbrke:298B lbrksld:298F lbrkslu:298D lcaron:013E
   lcedil:013C lceil:2308 lcub:007B lcy:043B ldca:2936 ldquo:201C ldquor:201E ldrdhar:2967
   ldrushar:294B ldsh:21B2 le:2264 leftarrow:2190 leftarrowtail:21A2 leftharpoondown:21BD
   leftharpoonup:21BC leftleftarrows:21C7 leftrightarrow:2194 leftrightarrows:21C6
   leftrightharpoons:21CB leftrightsquigarrow:21AD leftthreetimes:22CB leg:22DA leq:2264 leqq:2266
   leqslant:2A7D les:2A7D lescc:2AA8 lesdot:2A7F lesdoto:2A81 lesdotor:2A83 lesg:22DA+FE00
   lesges:2A93 lessapprox:2A85 lessdot:22D6 lesseqgtr:22DA lesseqqgtr:2A8B lessgtr:2276 lesssim:2272
   lfisht:297C lfloor:230A lfr:1D529 lg:2276 lgE:2A91 lhard:21BD lharu:21BC lharul:296A lhblk:2584
   ljcy:0459 ll:226A llarr:21C7 llcorner:231E llhard:296B lltri:25FA lmidot:0140 lmoust:23B0
   lmoustache:23B0 lnE:2268 lnap:2A89 lnapprox:2A89 lne:2A87 lneq:2A87 lneqq:2268 lnsim:22E6
   loang:27EC loarr:21FD lobrk:27E6 longleftarrow:27F5 longleftrightarrow:27F7 longmapsto:27FC
   longrightarrow:27F6 looparrowleft:21AB looparrowright:21AC lopar:2985 lopf:1D55D loplus:2A2D
   lotimes:2A34 lowast:2217 lowbar:005F loz:25CA lozenge:25CA lozf:29EB lpar:0028 lparlt:2993
   lrarr:21C6 lrcorner:231F lrhar:21CB lrhard:296D lrm:200E lrtri:22BF lsaquo:2039 lscr:1D4C1
   lsh:21B0 lsim:2272 lsime:2A8D lsimg:2A8F lsqb:005B lsquo:2018 lsquor:201A lstrok:0142 lt:003C
   ltcc:2AA6 ltcir:2A79 ltdot:22D6 lthree:22CB ltimes:22C9 ltlarr:2976 ltquest:2A7B ltrPar:2996
   ltri:25C3 ltrie:22B4 ltrif:25C2 lurdshar:294A luruhar:2966 lvertneqq:2268+FE00 lvnE:2268+FE00
   mDDot:223A macr:00AF male:2642 malt:2720 maltese:2720 map:21A6 mapsto:21A6 mapstodown:21A7
   mapstoleft:21A4 mapstoup:21A5 marker:25AE mcomma:2A29 mcy:043C mdash:2014 measuredangle:2221
   mfr:1D52A mho:2127 micro:00B5 mid:2223 midast:002A midcir:2AF0 middot:00B7 minus:2212 minusb:229F
   minusd:2238 minusdu:2A2A mlcp:2ADB mldr:2026 mnplus:2213 models:22A7 mopf:1D55E mp:2213 mscr:1D4C2
   mstpos:223E mu:03BC multimap:22B8 mumap:22B8 nGg:22D9+0338 nGt:226B+20D2 nGtv:226B+0338
   nLeftarrow:21CD nLeftrightarrow:21CE nLl:22D8+0338 nLt:226A+20D2 nLtv:226A+0338 nRightarrow:21CF
   nVDash:22AF nVdash:22AE nabla:2207 nacute:0144 nang:2220+20D2 nap:2249 napE:2A70+0338
   napid:224B+0338 napos:0149 napprox:2249 natur:266E natural:266E naturals:2115 nbsp:00A0
   nbump:224E+0338 nbumpe:224F+0338 ncap:2A43 ncaron:0148 ncedil:0146 ncong:2247 ncongdot:2A6D+0338
   ncup:2A42 ncy:043D ndash:2013 ne:2260 neArr:21D7 nearhk:2924 nearr:2197 nearrow:2197
   nedot:2250+0338 nequiv:2262 nesear:2928 nesim:2242+0338 nexist:2204 nexists:2204 nfr:1D52B
   ngE:2267+0338 nge:2271 ngeq:2271 ngeqq:2267+0338 ngeqslant:2A7E+0338 nges:2A7E+0338 ngsim:2275
   ngt:226F ngtr:226F nhArr:21CE nharr:21AE nhpar:2AF2 ni:220B nis:22FC nisd:22FA niv:220B njcy:045A
   nlArr:21CD nlE:2266+0338 nlarr:219A nldr:2025 nle:2270 nleftarrow:219A nleftrightarrow:21AE
   nleq:2270 nleqq:2266+0338 nleqslant:2A7D+0338 nles:2A7D+0338 nless:226E nlsim:2274 nlt:226E
   nltri:22EA nltrie:22EC nmid:2224 nopf:1D55F not:00AC notin:2209 notinE:22F9+0338
   notindot:22F5+0338 notinva:2209 notinvb:22F7 notinvc:22F6 notni:220C notniva:220C notnivb:22FE
   notnivc:22FD npar:2226 nparallel:2226 nparsl:2AFD+20E5 npart:2202+0338 npolint:2A14 npr:2280
   nprcue:22E0 npre:2AAF+0338 nprec:2280 npreceq:2AAF+0338 nrArr:21CF nrarr:219B nrarrc:2933+0338
   nrarrw:219D+0338 nrightarrow:219B nrtri:22EB nrtrie:22ED nsc:2281 nsccue:22E1 nsce:2AB0+0338
   nscr:1D4C3 nshortmid:2224 nshortparallel:2226 nsim:2241 nsime:2244 nsimeq:2244 nsmid:2224
   nspar:2226 nsqsube:22E2 nsqsupe:22E3 nsub:2284 nsubE:2AC5+0338 nsube:2288 nsubset:2282+20D2
   nsubseteq:2288 nsubseteqq:2AC5+0338 nsucc:2281 nsucceq:2AB0+0338 nsup:2285 nsupE:2AC6+0338
   nsupe:2289 nsupset:2283+20D2 nsupseteq:2289 nsupseteqq:2AC6+0338 ntgl:2279 ntilde:00F1 ntlg:2278
   ntriangleleft:22EA ntrianglelefteq:22EC ntriangleright:22EB ntrianglerighteq:22ED nu:03BD num:0023
   numero:2116 numsp:2007 nvDash:22AD nvHarr:2904 nvap:224D+20D2 nvdash:22AC nvge:2265+20D2
   nvgt:003E+20D2 nvinfin:29DE nvlArr:2902 nvle:2264+20D2 nvlt:003C+20D2 nvltrie:22B4+20D2
   nvrArr:2903 nvrtrie:22B5+20D2 nvsim:223C+20D2 nwArr:21D6 nwarhk:2923 nwarr:2196 nwarrow:2196
   nwnear:2927 oS:24C8 oacute:00F3 oast:229B ocir:229A ocirc:00F4 ocy:043E odash:229D odblac:0151
   odiv:2A38 odot:2299 odsold:29BC oelig:0153 ofcir:29BF ofr:1D52C ogon:02DB ograve:00F2 ogt:29C1
   ohbar:29B5 ohm:03A9 oint:222E olarr:21BA olcir:29BE olcross:29BB oline:203E olt:29C0 omacr:014D
   omega:03C9 omicron:03BF omid:29B6 ominus:2296 oopf:1D560 opar:29B7 operp:29B9 oplus:2295 or:2228
   orarr:21BB ord:2A5D order:2134 orderof:2134 ordf:00AA ordm:00BA origof:22B6 oror:2A56 orslope:2A57
   orv:2A5B oscr:2134 oslash:00F8 osol:2298 otilde:00F5 otimes:2297 otimesas:2A36 ouml:00F6
   ovbar:233D par:2225 para:00B6 parallel:2225 parsim:2AF3 parsl:2AFD part:2202 pcy:043F percnt:0025
   period:002E permil:2030 perp:22A5 pertenk:2031 pfr:1D52D phi:03C6 phiv:03D5 phmmat:2133 phone:260E
   pi:03C0 pitchfork:22D4 piv:03D6 planck:210F planckh:210E plankv:210F plus:002B plusacir:2A23
   plusb:229E pluscir:2A22 plusdo:2214 plusdu:2A25 pluse:2A72 plusmn:00B1 plussim:2A26 plustwo:2A27
   pm:00B1 pointint:2A15 popf:1D561 pound:00A3 pr:227A prE:2AB3 prap:2AB7 prcue:227C pre:2AAF
   prec:227A precapprox:2AB7 preccurlyeq:227C preceq:2AAF precnapprox:2AB9 precneqq:2AB5
   precnsim:22E8 precsim:227E prime:2032 primes:2119 prnE:2AB5 prnap:2AB9 prnsim:22E8 prod:220F
   profalar:232E profline:2312 profsurf:2313 prop:221D propto:221D prsim:227E prurel:22B0 pscr:1D4C5
   psi:03C8 puncsp:2008 qfr:1D52E qint:2A0C qopf:1D562 qprime:2057 qscr:1D4C6 quaternions:210D
   quatint:2A16 quest:003F questeq:225F quot:0022 rAarr:21DB rArr:21D2 rAtail:291C rBarr:290F
   rHar:2964 race:223D+0331 racute:0155 radic:221A raemptyv:29B3 rang:27E9 rangd:2992 range:29A5
   rangle:27E9 raquo:00BB rarr:2192 rarrap:2975 rarrb:21E5 rarrbfs:2920 rarrc:2933 rarrfs:291E
   rarrhk:21AA rarrlp:21AC rarrpl:2945 rarrsim:2974 rarrtl:21A3 rarrw:219D ratail:291A ratio:2236
   rationals:211A rbarr:290D rbbrk:2773 rbrace:007D rbrack:005D rbrke:298C rbrksld:298E rbrkslu:2990
   rcaron:0159 rcedil:0157 rceil:2309 rcub:007D rcy:0440 rdca:2937 rdldhar:2969 rdquo:201D
   rdquor:201D rdsh:21B3 real:211C realine:211B realpart:211C reals:211D rect:25AD reg:00AE
   rfisht:297D rfloor:230B rfr:1D52F rhard:21C1 rharu:21C0 rharul:296C rho:03C1 rhov:03F1
   rightarrow:2192 rightarrowtail:21A3 rightharpoondown:21C1 rightharpoonup:21C0 rightleftarrows:21C4
   rightleftharpoons:21CC rightrightarrows:21C9 rightsquigarrow:219D rightthreetimes:22CC ring:02DA
   risingdotseq:2253 rlarr:21C4 rlhar:21CC rlm:200F rmoust:23B1 rmoustache:23B1 rnmid:2AEE roang:27ED
   roarr:21FE robrk:27E7 ropar:2986 ropf:1D563 roplus:2A2E rotimes:2A35 rpar:0029 rpargt:2994
   rppolint:2A12 rrarr:21C9 rsaquo:203A rscr:1D4C7 rsh:21B1 rsqb:005D rsquo:2019 rsquor:2019
   rthree:22CC rtimes:22CA rtri:25B9 rtrie:22B5 rtrif:25B8 rtriltri:29CE ruluhar:2968 rx:211E
   sacute:015B sbquo:201A sc:227B scE:2AB4 scap:2AB8 scaron:0161 sccue:227D sce:2AB0 scedil:015F
   scirc:015D scnE:2AB6 scnap:2ABA scnsim:22E9 scpolint:2A13 scsim:227F scy:0441 sdot:22C5 sdotb:22A1
   sdote:2A66 seArr:21D8 searhk:2925 searr:2198 searrow:2198 sect:00A7 semi:003B seswar:2929
   setminus:2216 setmn:2216 sext:2736 sfr:1D530 sfrown:2322 sharp:266F shchcy:0449 shcy:0448
   shortmid:2223 shortparallel:2225 shy:00AD sigma:03C3 sigmaf:03C2 sigmav:03C2 sim:223C simdot:2A6A
   sime:2243 simeq:2243 simg:2A9E simgE:2AA0 siml:2A9D simlE:2A9F simne:2246 simplus:2A24
   simrarr:2972 slarr:2190 smallsetminus:2216 smashp:2A33 smeparsl:29E4 smid:2223 smile:2323 smt:2AAA
   smte:2AAC smtes:2AAC+FE00 softcy:044C sol:002F solb:29C4 solbar:233F sopf:1D564 spades:2660
   spadesuit:2660 spar:2225 sqcap:2293 sqcaps:2293+FE00 sqcup:2294 sqcups:2294+FE00 sqsub:228F
   sqsube:2291 sqsubset:228F sqsubseteq:2291 sqsup:2290 sqsupe:2292 sqsupset:2290 sqsupseteq:2292
   squ:25A1 square:25A1 squarf:25AA squf:25AA srarr:2192 sscr:1D4C8 ssetmn:2216 ssmile:2323
   sstarf:22C6 star:2606 starf:2605 straightepsilon:03F5 straightphi:03D5 strns:00AF sub:2282
   subE:2AC5 subdot:2ABD sube:2286 subedot:2AC3 submult:2AC1 subnE:2ACB subne:228A subplus:2ABF
   subrarr:2979 subset:2282 subseteq:2286 subseteqq:2AC5 subsetneq:228A subsetneqq:2ACB subsim:2AC7
   subsub:2AD5 subsup:2AD3 succ:227B succapprox:2AB8 succcurlyeq:227D succeq:2AB0 succnapprox:2ABA
   succneqq:2AB6 succnsim:22E9 succsim:227F sum:2211 sung:266A sup:2283 sup1:00B9 sup2:00B2 sup3:00B3
   supE:2AC6 supdot:2ABE supdsub:2AD8 supe:2287 supedot:2AC4 suphsol:27C9 suphsub:2AD7 suplarr:297B
   supmult:2AC2 supnE:2ACC supne:228B supplus:2AC0 supset:2283 supseteq:2287 supseteqq:2AC6
   supsetneq:228B supsetneqq:2ACC supsim:2AC8 supsub:2AD4 supsup:2AD6 swArr:21D9 swarhk:2926
   swarr:2199 swarrow:2199 swnwar:292A szlig:00DF target:2316 tau:03C4 tbrk:23B4 tcaron:0165
   tcedil:0163 tcy:0442 tdot:20DB telrec:2315 tfr:1D531 there4:2234 therefore:2234 theta:03B8
   thetasym:03D1 thetav:03D1 thickapprox:2248 thicksim:223C thinsp:2009 thkap:2248 thksim:223C
   thorn:00FE tilde:02DC times:00D7 timesb:22A0 timesbar:2A31 timesd:2A30 tint:222D toea:2928
   top:22A4 topbot:2336 topcir:2AF1 topf:1D565 topfork:2ADA tosa:2929 tprime:2034 trade:2122
   triangle:25B5 triangledown:25BF triangleleft:25C3 trianglelefteq:22B4 triangleq:225C
   triangleright:25B9 trianglerighteq:22B5 tridot:25EC trie:225C triminus:2A3A triplus:2A39
   trisb:29CD tritime:2A3B trpezium:23E2 tscr:1D4C9 tscy:0446 tshcy:045B tstrok:0167 twixt:226C
   twoheadleftarrow:219E twoheadrightarrow:21A0 uArr:21D1 uHar:2963 uacute:00FA uarr:2191 ubrcy:045E
   ubreve:016D ucirc:00FB ucy:0443 udarr:21C5 udblac:0171 udhar:296E ufisht:297E ufr:1D532
   ugrave:00F9 uharl:21BF uharr:21BE uhblk:2580 ulcorn:231C ulcorner:231C ulcrop:230F ultri:25F8
   umacr:016B uml:00A8 uogon:0173 uopf:1D566 uparrow:2191 updownarrow:2195 upharpoonleft:21BF
   upharpoonright:21BE uplus:228E upsi:03C5 upsih:03D2 upsilon:03C5 upuparrows:21C8 urcorn:231D
   urcorner:231D urcrop:230E uring:016F urtri:25F9 uscr:1D4CA utdot:22F0 utilde:0169 utri:25B5
   utrif:25B4 uuarr:21C8 uuml:00FC uwangle:29A7 vArr:21D5 vBar:2AE8 vBarv:2AE9 vDash:22A8 vangrt:299C
   varepsilon:03F5 varkappa:03F0 varnothing:2205 varphi:03D5 varpi:03D6 varpropto:221D varr:2195
   varrho:03F1 varsigma:03C2 varsubsetneq:228A+FE00 varsubsetneqq:2ACB+FE00 varsupsetneq:228B+FE00
   varsupsetneqq:2ACC+FE00 vartheta:03D1 vartriangleleft:22B2 vartriangleright:22B3 vcy:0432
   vdash:22A2 vee:2228 veebar:22BB veeeq:225A vellip:22EE verbar:007C vert:007C vfr:1D533 vltri:22B2
   vnsub:2282+20D2 vnsup:2283+20D2 vopf:1D567 vprop:221D vrtri:22B3 vscr:1D4CB vsubnE:2ACB+FE00
   vsubne:228A+FE00 vsupnE:2ACC+FE00 vsupne:228B+FE00 vzigzag:299A wcirc:0175 wedbar:2A5F wedge:2227
   wedgeq:2259 weierp:2118 wfr:1D534 wopf:1D568 wp:2118 wr:2240 wreath:2240 wscr:1D4CC xcap:22C2
   xcirc:25EF xcup:22C3 xdtri:25BD xfr:1D535 xhArr:27FA xharr:27F7 xi:03BE xlArr:27F8 xlarr:27F5
   xmap:27FC xnis:22FB xodot:2A00 xopf:1D569 xoplus:2A01 xotime:2A02 xrArr:27F9 xrarr:27F6 xscr:1D4CD
   xsqcup:2A06 xuplus:2A04 xutri:25B3 xvee:22C1 xwedge:22C0 yacute:00FD yacy:044F ycirc:0177 ycy:044B
   yen:00A5 yfr:1D536 yicy:0457 yopf:1D56A yscr:1D4CE yucy:044E yuml:00FF zacute:017A zcaron:017E
   zcy:0437 zdot:017C zeetrf:2128 zeta:03B6 zfr:1D537 zhcy:0436 zigrarr:21DD zopf:1D56B zscr:1D4CF
   zwj:200D zwnj:200C"

/-- The character of a numeric reference; zero, surrogates and numbers beyond Unicode give the
replacement character. -/
def referencedChar (n : Nat) : Char := if n = 0 ∨ ¬ n.isValidChar then '\uFFFD' else Char.ofNat n

/-- Reads a numeric reference after its `#`: at most seven decimal or six hexadecimal digits. -/
def numericReference? (s : Text) : Option (Text × Text) :=
  let (digits, r, value, most) := match s with
    | 'x' :: s => (s.takeWhile isHex, s.dropWhile isHex, hexValue, 6)
    | 'X' :: s => (s.takeWhile isHex, s.dropWhile isHex, hexValue, 6)
    | s => (s.takeWhile isAsciiDigit, s.dropWhile isAsciiDigit, digitsValue, 7)
  match r with
  | ';' :: r => if 0 < digits.length ∧ digits.length ≤ most then some ([referencedChar (value digits)], r) else none
  | _ => none
where
  isHex (c : Char) : Bool := (hexDigit? c).isSome

/-- Reads a character reference at the head of a text: what it stands for, and what follows it. -/
def reference? : Text → Option (Text × Text)
  | '&' :: '#' :: s => numericReference? s
  | '&' :: s =>
    match s.dropWhile isAsciiAlphanumeric with
    | ';' :: r => (namedReferences.lookup (s.takeWhile isAsciiAlphanumeric)).map fun v => (v, r)
    | _ => none
  | _ => none

end Coursebook.Text
