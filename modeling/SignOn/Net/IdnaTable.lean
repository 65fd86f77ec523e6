/-!
The mapping table of internationalized domain names: what becomes of each non-ASCII character before
a domain is encoded. A character that no entry covers stays as it is.

An entry starts with a code point and a sign, all numbers are hexadecimal:
`c!n` refuses `n` characters from `c` on and `c~n` drops them; `c+n,t` maps them one by one to the
characters from `t` on; `c*n,t` does the same with every second character; `c=n,t` maps all of them
to `t`; `c>t,u,…` maps the one character `c` to several.
-/

namespace SignOn.Net.Idna

/-- The entries in ascending order, separated by blanks and line ends. -/
def mappingText : String :=
  "80!20 A0+1,20 A8>20,308 AA+1,61 AD~1 AF>20,304 B2+2,32 B4>20,301 B5+1,3BC B8>20,327 B9+1,31
    BA+1,6F BC>31,2044,34 BD>31,2044,32 BE>33,2044,34 C0+17,E0 D8+7,F8 100*18,101 130>69,307
    132>69,6A 133>69,6A 134*2,135 139*3,13A 13F>6C,B7 140>6C,B7 141*4,142 149>2BC,6E 14A*17,14B
    178+1,FF 179*3,17A 17F+1,73 181+1,253 182*2,183 186+1,254 187+1,188 189+2,256 18B+1,18C
    18E+1,1DD 18F+1,259 190+1,25B 191+1,192 193+1,260 194+1,263 196+1,269 197+1,268 198+1,199
    19C+1,26F 19D+1,272 19F+1,275 1A0*3,1A1 1A6+1,280 1A7+1,1A8 1A9+1,283 1AC+1,1AD 1AE+1,288
    1AF+1,1B0 1B1+2,28A 1B3*2,1B4 1B7+1,292 1B8+1,1B9 1BC+1,1BD 1C4>64,17E 1C5>64,17E 1C6>64,17E
    1C7>6C,6A 1C8>6C,6A 1C9>6C,6A 1CA>6E,6A 1CB>6E,6A 1CC>6E,6A 1CD*8,1CE 1DE*9,1DF 1F1>64,7A
    1F2>64,7A 1F3>64,7A 1F4+1,1F5 1F6+1,195 1F7+1,1BF 1F8*14,1F9 220+1,19E 222*9,223 23A+1,2C65
    23B+1,23C 23D+1,19A 23E+1,2C66 241+1,242 243+1,180 244+1,289 245+1,28C 246*5,247 2B0*2,68
    2B1+1,266 2B3+1,72 2B4+1,279 2B5+1,27B 2B6+1,281 2B7+1,77 2B8+1,79 2D8>20,306 2D9>20,307
    2DA>20,30A 2DB>20,328 2DC>20,303 2DD>20,30B 2E0+1,263 2E1+1,6C 2E2+1,73 2E3+1,78 2E4+1,295
    340+2,300 343+1,313 344>308,301 345+1,3B9 34F~1 370*2,371 374+1,2B9 376+1,377 378!2 37A>20,3B9
    37E+1,3B 37F+1,3F3 380!4 384>20,301 385>20,308,301 386+1,3AC 387+1,B7 388+3,3AD 38B!1 38C+1,3CC
    38D!1 38E+2,3CD 391+11,3B1 3A2!1 3A3+9,3C3 3CF+1,3D7 3D0+1,3B2 3D1+1,3B8 3D2+1,3C5 3D3+1,3CD
    3D4+1,3CB 3D5+1,3C6 3D6+1,3C0 3D8*C,3D9 3F0+1,3BA 3F1+1,3C1 3F2+1,3C3 3F4+1,3B8 3F5+1,3B5
    3F7+1,3F8 3F9+1,3C3 3FA+1,3FB 3FD+3,37B 400+10,450 410+20,430 460*11,461 48A*1B,48B 4C0+1,4CF
    4C1*7,4C2 4D0*30,4D1 530!1 531+26,561 557!2 587>565,582 58B!2 590!1 5C8!8 5EB!4 5F5!11 61C!1
    675>627,674 676>648,674 677>6C7,674 678>64A,674 6DD!1 70E!2 74B!2 7B2!E 7FB!2 82E!2 83F!1 85C!2
    85F!1 86B!5 890!7 8E2!1 958>915,93C 959>916,93C 95A>917,93C 95B>91C,93C 95C>921,93C 95D>922,93C
    95E>92B,93C 95F>92F,93C 984!1 98D!2 991!2 9A9!1 9B1!1 9B3!3 9BA!2 9C5!2 9C9!2 9CF!8 9D8!4
    9DC>9A1,9BC 9DD>9A2,9BC 9DE!1 9DF>9AF,9BC 9E4!2 9FF!2 A04!1 A0B!4 A11!2 A29!1 A31!1 A33>A32,A3C
    A34!1 A36>A38,A3C A37!1 A3A!2 A3D!1 A43!4 A49!2 A4E!3 A52!7 A59>A16,A3C A5A>A17,A3C A5B>A1C,A3C
    A5D!1 A5E>A2B,A3C A5F!7 A77!A A84!1 A8E!1 A92!1 AA9!1 AB1!1 AB4!1 ABA!2 AC6!1 ACA!1 ACE!2 AD1!F
    AE4!2 AF2!7 B00!1 B04!1 B0D!2 B11!2 B29!1 B31!1 B34!1 B3A!2 B45!2 B49!2 B4E!7 B58!4 B5C>B21,B3C
    B5D>B22,B3C B5E!1 B64!2 B78!A B84!1 B8B!3 B91!1 B96!3 B9B!1 B9D!1 BA0!3 BA5!3 BAB!3 BBA!4 BC3!3
    BC9!1 BCE!2 BD1!6 BD8!E BFB!5 C0D!1 C11!1 C29!1 C3A!2 C45!1 C49!1 C4E!7 C57!1 C5B!1 C5E!2 C64!2
    C70!7 C8D!1 C91!1 CA9!1 CB4!1 CBA!2 CC5!1 CC9!1 CCE!7 CD7!5 CDF!1 CE4!2 CF0!1 CF4!C D0D!1 D11!1
    D45!1 D49!1 D50!4 D64!2 D80!1 D84!1 D97!3 DB2!1 DBC!1 DBE!2 DC7!3 DCB!4 DD5!1 DD7!1 DE0!6 DF0!2
    DF5!C E33>E4D,E32 E3B!4 E5C!25 E83!1 E85!1 E8B!1 EA4!1 EA6!1 EB3>ECD,EB2 EBE!2 EC5!1 EC7!1 ECF!1
    EDA!2 EDC>EAB,E99 EDD>EAB,EA1 EE0!20 F0C+1,F0B F43>F42,FB7 F48!1 F4D>F4C,FB7 F52>F51,FB7
    F57>F56,FB7 F5C>F5B,FB7 F69>F40,FB5 F6D!4 F73>F71,F72 F75>F71,F74 F76>FB2,F80 F77>FB2,F71,F80
    F78>FB3,F80 F79>FB3,F71,F80 F81>F71,F80 F93>F92,FB7 F98!1 F9D>F9C,FB7 FA2>FA1,FB7 FA7>FA6,FB7
    FAC>FAB,FB7 FB9>F90,FB5 FBD!1 FCD!1 FDB!25 10A0+26,2D00 10C6!1 10C7+1,2D27 10C8!5 10CD+1,2D2D
    10CE!2 10FC+1,10DC 115F~2 1249!1 124E!2 1257!1 1259!1 125E!2 1289!1 128E!2 12B1!1 12B6!2 12BF!1
    12C1!1 12C6!2 12D7!1 1311!1 1316!2 135B!2 137D!3 139A!6 13F6!2 13F8+6,13F0 13FE!2 1680!1 169D!3
    16F9!7 1716!9 1737!9 1754!C 176D!1 1771!1 1774!C 17B4~2 17DE!2 17EA!6 17FA!6 180B~5 181A!6
    1879!7 18AB!5 18F6!A 191F!1 192C!4 193C!4 1941!3 196E!2 1975!B 19AC!4 19CA!6 19DB!3 1A1C!2
    1A5F!1 1A7D!2 1A8A!6 1A9A!6 1AAE!2 1ADE!2 1AEC!14 1B4D!1 1BF4!8 1C38!3 1C4A!3 1C80+1,432
    1C81+1,434 1C82+1,43E 1C83+2,441 1C85+1,442 1C86+1,44A 1C87+1,463 1C88+1,A64B 1C89+1,1C8A 1C8B!5
    1C90+2B,10D0 1CBB!2 1CBD+3,10FD 1CC8!8 1CFB!5 1D2C+1,61 1D2D+1,E6 1D2E*2,62 1D31*5,65 1D32+1,1DD
    1D34*4,68 1D3C+1,6F 1D3D+1,223 1D3E+1,70 1D3F+1,72 1D40+2,74 1D42+1,77 1D43+1,61 1D44+2,250
    1D46+1,1D02 1D47+1,62 1D48+2,64 1D4A+1,259 1D4B+2,25B 1D4D+1,67 1D4F+1,6B 1D50*2,6D 1D51+1,14B
    1D53+1,254 1D54+2,1D16 1D56+1,70 1D57+2,74 1D59+1,1D1D 1D5A+1,26F 1D5B+1,76 1D5C+1,1D25
    1D5D+3,3B2 1D60+2,3C6 1D62+1,69 1D63+1,72 1D64+2,75 1D66+2,3B2 1D68+1,3C1 1D69+2,3C6 1D78+1,43D
    1D9B+1,252 1D9C+1,63 1D9D+1,255 1D9E+1,F0 1D9F+1,25C 1DA0+1,66 1DA1+1,25F 1DA2+1,261 1DA3+1,265
    1DA4+3,268 1DA7+1,1D7B 1DA8+1,29D 1DA9+1,26D 1DAA+1,1D85 1DAB+1,29F 1DAC+1,271 1DAD+1,270
    1DAE+4,272 1DB2+1,278 1DB3+2,282 1DB5+1,1AB 1DB6+2,289 1DB8+1,1D1C 1DB9+2,28B 1DBB+1,7A
    1DBC+3,290 1DBF+1,3B8 1E00*4B,1E01 1E9A>61,2BE 1E9B+1,1E61 1E9E+1,DF 1EA0*30,1EA1 1F08+8,1F00
    1F16!2 1F18+6,1F10 1F1E!2 1F28+8,1F20 1F38+8,1F30 1F46!2 1F48+6,1F40 1F4E!2 1F58!1 1F59*4,1F51
    1F5A!1 1F5C!1 1F5E!1 1F68+8,1F60 1F71+1,3AC 1F73+1,3AD 1F75+1,3AE 1F77+1,3AF 1F79+1,3CC
    1F7B+1,3CD 1F7D+1,3CE 1F7E!2 1F80>1F00,3B9 1F81>1F01,3B9 1F82>1F02,3B9 1F83>1F03,3B9
    1F84>1F04,3B9 1F85>1F05,3B9 1F86>1F06,3B9 1F87>1F07,3B9 1F88>1F00,3B9 1F89>1F01,3B9
    1F8A>1F02,3B9 1F8B>1F03,3B9 1F8C>1F04,3B9 1F8D>1F05,3B9 1F8E>1F06,3B9 1F8F>1F07,3B9
    1F90>1F20,3B9 1F91>1F21,3B9 1F92>1F22,3B9 1F93>1F23,3B9 1F94>1F24,3B9 1F95>1F25,3B9
    1F96>1F26,3B9 1F97>1F27,3B9 1F98>1F20,3B9 1F99>1F21,3B9 1F9A>1F22,3B9 1F9B>1F23,3B9
    1F9C>1F24,3B9 1F9D>1F25,3B9 1F9E>1F26,3B9 1F9F>1F27,3B9 1FA0>1F60,3B9 1FA1>1F61,3B9
    1FA2>1F62,3B9 1FA3>1F63,3B9 1FA4>1F64,3B9 1FA5>1F65,3B9 1FA6>1F66,3B9 1FA7>1F67,3B9
    1FA8>1F60,3B9 1FA9>1F61,3B9 1FAA>1F62,3B9 1FAB>1F63,3B9 1FAC>1F64,3B9 1FAD>1F65,3B9
    1FAE>1F66,3B9 1FAF>1F67,3B9 1FB2>1F70,3B9 1FB3>3B1,3B9 1FB4>3AC,3B9 1FB5!1 1FB7>1FB6,3B9
    1FB8+2,1FB0 1FBA+1,1F70 1FBB+1,3AC 1FBC>3B1,3B9 1FBD>20,313 1FBE+1,3B9 1FBF>20,313 1FC0>20,342
    1FC1>20,308,342 1FC2>1F74,3B9 1FC3>3B7,3B9 1FC4>3AE,3B9 1FC5!1 1FC7>1FC6,3B9 1FC8*2,1F72
    1FC9+1,3AD 1FCB+1,3AE 1FCC>3B7,3B9 1FCD>20,313,300 1FCE>20,313,301 1FCF>20,313,342 1FD3+1,390
    1FD4!2 1FD8+2,1FD0 1FDA+1,1F76 1FDB+1,3AF 1FDC!1 1FDD>20,314,300 1FDE>20,314,301 1FDF>20,314,342
    1FE3+1,3B0 1FE8+2,1FE0 1FEA+1,1F7A 1FEB+1,3CD 1FEC+1,1FE5 1FED>20,308,300 1FEE>20,308,301
    1FEF+1,60 1FF0!2 1FF2>1F7C,3B9 1FF3>3C9,3B9 1FF4>3CE,3B9 1FF5!1 1FF7>1FF6,3B9 1FF8+1,1F78
    1FF9*2,3CC 1FFA+1,1F7C 1FFC>3C9,3B9 1FFD>20,301 1FFE>20,314 1FFF!1 2000=B,20 200B~1 200E!2
    2011+1,2010 2017>20,333 2024!3 2028!7 202F+1,20 2033>2032,2032 2034>2032,2032,2032
    2036>2035,2035 2037>2035,2035,2035 203C>21,21 203E>20,305 2047>3F,3F 2048>3F,21 2049>21,3F
    2057>2032,2032,2032,2032 205F+1,20 2060~5 2065!5 206A~6 2070+1,30 2071+1,69 2072!2 2074+6,34
    207A+1,2B 207B+1,2212 207C+1,3D 207D+2,28 207F+1,6E 2080+A,30 208A+1,2B 208B+1,2212 208C+1,3D
    208D+2,28 208F!1 2090+1,61 2091+1,65 2092+1,6F 2093+1,78 2094+1,259 2095+1,68 2096+4,6B
    209A+1,70 209B+2,73 209D!3 20A8>72,73 20C2!E 20F1!F 2100>61,2F,63 2101>61,2F,73 2102+1,63
    2103>B0,63 2105>63,2F,6F 2106>63,2F,75 2107+1,25B 2109>B0,66 210A+2,67 210C=3,68 210F+1,127
    2110=2,69 2112=2,6C 2115+1,6E 2116>6E,6F 2119+3,70 211C=2,72 2120>73,6D 2121>74,65,6C 2122>74,6D
    2124+1,7A 2126+1,3C9 2128+1,7A 212A+1,6B 212B+1,E5 212C+2,62 212F=2,65 2131+1,66 2132+1,214E
    2133+1,6D 2134+1,6F 2135+4,5D0 2139+1,69 213B>66,61,78 213C+1,3C0 213D=2,3B3 213F+1,3C0
    2140+1,2211 2145=2,64 2147+1,65 2148+2,69 2150>31,2044,37 2151>31,2044,39 2152>31,2044,31,30
    2153>31,2044,33 2154>32,2044,33 2155>31,2044,35 2156>32,2044,35 2157>33,2044,35 2158>34,2044,35
    2159>31,2044,36 215A>35,2044,36 215B>31,2044,38 215C>33,2044,38 215D>35,2044,38 215E>37,2044,38
    215F>31,2044 2160+1,69 2161>69,69 2162>69,69,69 2163>69,76 2164+1,76 2165>76,69 2166>76,69,69
    2167>76,69,69,69 2168>69,78 2169+1,78 216A>78,69 216B>78,69,69 216C+1,6C 216D+2,63 216F+1,6D
    2170+1,69 2171>69,69 2172>69,69,69 2173>69,76 2174+1,76 2175>76,69 2176>76,69,69
    2177>76,69,69,69 2178>69,78 2179+1,78 217A>78,69 217B>78,69,69 217C+1,6C 217D+2,63 217F+1,6D
    2183+1,2184 2189>30,2044,33 218C!4 222C>222B,222B 222D>222B,222B,222B 222F>222E,222E
    2230>222E,222E,222E 2329+2,3008 242A!16 244B!15 2460+9,31 2469>31,30 246A>31,31 246B>31,32
    246C>31,33 246D>31,34 246E>31,35 246F>31,36 2470>31,37 2471>31,38 2472>31,39 2473>32,30
    2474>28,31,29 2475>28,32,29 2476>28,33,29 2477>28,34,29 2478>28,35,29 2479>28,36,29
    247A>28,37,29 247B>28,38,29 247C>28,39,29 247D>28,31,30,29 247E>28,31,31,29 247F>28,31,32,29
    2480>28,31,33,29 2481>28,31,34,29 2482>28,31,35,29 2483>28,31,36,29 2484>28,31,37,29
    2485>28,31,38,29 2486>28,31,39,29 2487>28,32,30,29 2488!14 249C>28,61,29 249D>28,62,29
    249E>28,63,29 249F>28,64,29 24A0>28,65,29 24A1>28,66,29 24A2>28,67,29 24A3>28,68,29
    24A4>28,69,29 24A5>28,6A,29 24A6>28,6B,29 24A7>28,6C,29 24A8>28,6D,29 24A9>28,6E,29
    24AA>28,6F,29 24AB>28,70,29 24AC>28,71,29 24AD>28,72,29 24AE>28,73,29 24AF>28,74,29
    24B0>28,75,29 24B1>28,76,29 24B2>28,77,29 24B3>28,78,29 24B4>28,79,29 24B5>28,7A,29 24B6+1A,61
    24D0+1A,61 24EA+1,30 2A0C>222B,222B,222B,222B 2A74>3A,3A,3D 2A75>3D,3D 2A76>3D,3D,3D
    2ADC>2ADD,338 2B74!2 2C00+30,2C30 2C60+1,2C61 2C62+1,26B 2C63+1,1D7D 2C64+1,27D 2C67*3,2C68
    2C6D+1,251 2C6E+1,271 2C6F+1,250 2C70+1,252 2C72+1,2C73 2C75+1,2C76 2C7C+1,6A 2C7D+1,76
    2C7E+2,23F 2C80*32,2C81 2CEB*2,2CEC 2CF2+1,2CF3 2CF4!5 2D26!1 2D28!5 2D2E!2 2D68!7 2D6F+1,2D61
    2D71!E 2D97!9 2DA7!1 2DAF!1 2DB7!1 2DBF!1 2DC7!1 2DCF!1 2DD7!1 2DDF!1 2E5E!22 2E9A!1 2E9F+1,6BCD
    2EF3+1,9F9F 2EF4!C 2F00+1,4E00 2F01+1,4E28 2F02+1,4E36 2F03+1,4E3F 2F04+1,4E59 2F05+1,4E85
    2F06+1,4E8C 2F07+1,4EA0 2F08+1,4EBA 2F09+1,513F 2F0A+1,5165 2F0B+1,516B 2F0C+1,5182 2F0D+1,5196
    2F0E+1,51AB 2F0F+1,51E0 2F10+1,51F5 2F11+1,5200 2F12+1,529B 2F13+1,52F9 2F14+1,5315 2F15+1,531A
    2F16+1,5338 2F17+1,5341 2F18+1,535C 2F19+1,5369 2F1A+1,5382 2F1B+1,53B6 2F1C+1,53C8 2F1D+1,53E3
    2F1E+1,56D7 2F1F+1,571F 2F20+1,58EB 2F21+1,5902 2F22+1,590A 2F23+1,5915 2F24+1,5927 2F25+1,5973
    2F26+1,5B50 2F27+1,5B80 2F28+1,5BF8 2F29+1,5C0F 2F2A+1,5C22 2F2B+1,5C38 2F2C+1,5C6E 2F2D+1,5C71
    2F2E+1,5DDB 2F2F+1,5DE5 2F30+1,5DF1 2F31+1,5DFE 2F32+1,5E72 2F33+1,5E7A 2F34+1,5E7F 2F35+1,5EF4
    2F36+1,5EFE 2F37+1,5F0B 2F38+1,5F13 2F39+1,5F50 2F3A+1,5F61 2F3B+1,5F73 2F3C+1,5FC3 2F3D+1,6208
    2F3E+1,6236 2F3F+1,624B 2F40+1,652F 2F41+1,6534 2F42+1,6587 2F43+1,6597 2F44+1,65A4 2F45+1,65B9
    2F46+1,65E0 2F47+1,65E5 2F48+1,66F0 2F49+1,6708 2F4A+1,6728 2F4B+1,6B20 2F4C+1,6B62 2F4D+1,6B79
    2F4E+1,6BB3 2F4F+1,6BCB 2F50+1,6BD4 2F51+1,6BDB 2F52+1,6C0F 2F53+1,6C14 2F54+1,6C34 2F55+1,706B
    2F56+1,722A 2F57+1,7236 2F58+1,723B 2F59+1,723F 2F5A+1,7247 2F5B+1,7259 2F5C+1,725B 2F5D+1,72AC
    2F5E+1,7384 2F5F+1,7389 2F60+1,74DC 2F61+1,74E6 2F62+1,7518 2F63+1,751F 2F64+1,7528 2F65+1,7530
    2F66+1,758B 2F67+1,7592 2F68+1,7676 2F69+1,767D 2F6A+1,76AE 2F6B+1,76BF 2F6C+1,76EE 2F6D+1,77DB
    2F6E+1,77E2 2F6F+1,77F3 2F70+1,793A 2F71+1,79B8 2F72+1,79BE 2F73+1,7A74 2F74+1,7ACB 2F75+1,7AF9
    2F76+1,7C73 2F77+1,7CF8 2F78+1,7F36 2F79+1,7F51 2F7A+1,7F8A 2F7B+1,7FBD 2F7C+1,8001 2F7D+1,800C
    2F7E+1,8012 2F7F+1,8033 2F80+1,807F 2F81+1,8089 2F82+1,81E3 2F83+1,81EA 2F84+1,81F3 2F85+1,81FC
    2F86+1,820C 2F87+1,821B 2F88+1,821F 2F89+1,826E 2F8A+1,8272 2F8B+1,8278 2F8C+1,864D 2F8D+1,866B
    2F8E+1,8840 2F8F+1,884C 2F90+1,8863 2F91+1,897E 2F92+1,898B 2F93+1,89D2 2F94+1,8A00 2F95+1,8C37
    2F96+1,8C46 2F97+1,8C55 2F98+1,8C78 2F99+1,8C9D 2F9A+1,8D64 2F9B+1,8D70 2F9C+1,8DB3 2F9D+1,8EAB
    2F9E+1,8ECA 2F9F+1,8F9B 2FA0+1,8FB0 2FA1+1,8FB5 2FA2+1,9091 2FA3+1,9149 2FA4+1,91C6 2FA5+1,91CC
    2FA6+1,91D1 2FA7+1,9577 2FA8+1,9580 2FA9+1,961C 2FAA+1,96B6 2FAB+1,96B9 2FAC+1,96E8 2FAD+1,9751
    2FAE+1,975E 2FAF+1,9762 2FB0+1,9769 2FB1+1,97CB 2FB2+1,97ED 2FB3+1,97F3 2FB4+1,9801 2FB5+1,98A8
    2FB6+1,98DB 2FB7+1,98DF 2FB8+1,9996 2FB9+1,9999 2FBA+1,99AC 2FBB+1,9AA8 2FBC+1,9AD8 2FBD+1,9ADF
    2FBE+1,9B25 2FBF+1,9B2F 2FC0+1,9B32 2FC1+1,9B3C 2FC2+1,9B5A 2FC3+1,9CE5 2FC4+1,9E75 2FC5+1,9E7F
    2FC6+1,9EA5 2FC7+1,9EBB 2FC8+1,9EC3 2FC9+1,9ECD 2FCA+1,9ED1 2FCB+1,9EF9 2FCC+1,9EFD 2FCD+1,9F0E
    2FCE+1,9F13 2FCF+1,9F20 2FD0+1,9F3B 2FD1+1,9F4A 2FD2+1,9F52 2FD3+1,9F8D 2FD4+1,9F9C 2FD5+1,9FA0
    2FD6!2A 3000+1,20 3002+1,2E 3036+1,3012 3038+1,5341 3039+2,5344 3040!1 3097!2 309B>20,3099
    309C>20,309A 309F>3088,308A 30FF>30B3,30C8 3100!5 3130!1 3131+2,1100 3133*2,11AA 3134+1,1102
    3136+1,11AD 3137+3,1103 313A+6,11B0 3140+1,111A 3141+3,1106 3144+1,1121 3145+A,1109 314F+15,1161
    3164~1 3165+2,1114 3167+2,11C7 3169+1,11CC 316A+1,11CE 316B+1,11D3 316C+1,11D7 316D+1,11D9
    316E+1,111C 316F+1,11DD 3170+1,11DF 3171+2,111D 3173+1,1120 3174+2,1122 3176+1,1127 3177+1,1129
    3178+5,112B 317D+1,1132 317E+1,1136 317F+1,1140 3180+1,1147 3181+1,114C 3182+2,11F1 3184+3,1157
    3187+2,1184 3189+1,1188 318A+2,1191 318C+1,1194 318D+1,119E 318E+1,11A1 318F!1 3192+1,4E00
    3193+1,4E8C 3194+1,4E09 3195+1,56DB 3196+1,4E0A 3197+1,4E2D 3198+1,4E0B 3199+1,7532 319A+1,4E59
    319B+1,4E19 319C+1,4E01 319D+1,5929 319E+1,5730 319F+1,4EBA 31E6!A 3200>28,1100,29
    3201>28,1102,29 3202>28,1103,29 3203>28,1105,29 3204>28,1106,29 3205>28,1107,29 3206>28,1109,29
    3207>28,110B,29 3208>28,110C,29 3209>28,110E,29 320A>28,110F,29 320B>28,1110,29 320C>28,1111,29
    320D>28,1112,29 320E>28,AC00,29 320F>28,B098,29 3210>28,B2E4,29 3211>28,B77C,29 3212>28,B9C8,29
    3213>28,BC14,29 3214>28,C0AC,29 3215>28,C544,29 3216>28,C790,29 3217>28,CC28,29 3218>28,CE74,29
    3219>28,D0C0,29 321A>28,D30C,29 321B>28,D558,29 321C>28,C8FC,29 321D>28,C624,C804,29
    321E>28,C624,D6C4,29 321F!1 3220>28,4E00,29 3221>28,4E8C,29 3222>28,4E09,29 3223>28,56DB,29
    3224>28,4E94,29 3225>28,516D,29 3226>28,4E03,29 3227>28,516B,29 3228>28,4E5D,29 3229>28,5341,29
    322A>28,6708,29 322B>28,706B,29 322C>28,6C34,29 322D>28,6728,29 322E>28,91D1,29 322F>28,571F,29
    3230>28,65E5,29 3231>28,682A,29 3232>28,6709,29 3233>28,793E,29 3234>28,540D,29 3235>28,7279,29
    3236>28,8CA1,29 3237>28,795D,29 3238>28,52B4,29 3239>28,4EE3,29 323A>28,547C,29 323B>28,5B66,29
    323C>28,76E3,29 323D>28,4F01,29 323E>28,8CC7,29 323F>28,5354,29 3240>28,796D,29 3241>28,4F11,29
    3242>28,81EA,29 3243>28,81F3,29 3244+1,554F 3245+1,5E7C 3246+1,6587 3247+1,7B8F 3250>70,74,65
    3251>32,31 3252>32,32 3253>32,33 3254>32,34 3255>32,35 3256>32,36 3257>32,37 3258>32,38
    3259>32,39 325A>33,30 325B>33,31 325C>33,32 325D>33,33 325E>33,34 325F>33,35 3260+1,1100
    3261+2,1102 3263+3,1105 3266+1,1109 3267+2,110B 3269+5,110E 326E+1,AC00 326F+1,B098 3270+1,B2E4
    3271+1,B77C 3272+1,B9C8 3273+1,BC14 3274+1,C0AC 3275+1,C544 3276+1,C790 3277+1,CC28 3278+1,CE74
    3279+1,D0C0 327A+1,D30C 327B+1,D558 327C>CC38,ACE0 327D>C8FC,C758 327E+1,C6B0 3280+1,4E00
    3281+1,4E8C 3282+1,4E09 3283+1,56DB 3284+1,4E94 3285+1,516D 3286+1,4E03 3287+1,516B 3288+1,4E5D
    3289+1,5341 328A+1,6708 328B+1,706B 328C+1,6C34 328D+1,6728 328E+1,91D1 328F+1,571F 3290+1,65E5
    3291+1,682A 3292+1,6709 3293+1,793E 3294+1,540D 3295+1,7279 3296+1,8CA1 3297+1,795D 3298+1,52B4
    3299+1,79D8 329A+1,7537 329B+1,5973 329C+1,9069 329D+1,512A 329E+1,5370 329F+1,6CE8 32A0+1,9805
    32A1+1,4F11 32A2+1,5199 32A3+1,6B63 32A4+1,4E0A 32A5+1,4E2D 32A6+1,4E0B 32A7+1,5DE6 32A8+1,53F3
    32A9+1,533B 32AA+1,5B97 32AB+1,5B66 32AC+1,76E3 32AD+1,4F01 32AE+1,8CC7 32AF+1,5354 32B0+1,591C
    32B1>33,36 32B2>33,37 32B3>33,38 32B4>33,39 32B5>34,30 32B6>34,31 32B7>34,32 32B8>34,33
    32B9>34,34 32BA>34,35 32BB>34,36 32BC>34,37 32BD>34,38 32BE>34,39 32BF>35,30 32C0>31,6708
    32C1>32,6708 32C2>33,6708 32C3>34,6708 32C4>35,6708 32C5>36,6708 32C6>37,6708 32C7>38,6708
    32C8>39,6708 32C9>31,30,6708 32CA>31,31,6708 32CB>31,32,6708 32CC>68,67 32CD>65,72,67 32CE>65,76
    32CF>6C,74,64 32D0+1,30A2 32D1+1,30A4 32D2+1,30A6 32D3+1,30A8 32D4+2,30AA 32D6+1,30AD
    32D7+1,30AF 32D8+1,30B1 32D9+1,30B3 32DA+1,30B5 32DB+1,30B7 32DC+1,30B9 32DD+1,30BB 32DE+1,30BD
    32DF+1,30BF 32E0+1,30C1 32E1+1,30C4 32E2+1,30C6 32E3+1,30C8 32E4+6,30CA 32EA+1,30D2 32EB+1,30D5
    32EC+1,30D8 32ED+1,30DB 32EE+5,30DE 32F3+1,30E4 32F4+1,30E6 32F5+6,30E8 32FB+4,30EF
    32FF>4EE4,548C 3300>30A2,30D1,30FC,30C8 3301>30A2,30EB,30D5,30A1 3302>30A2,30F3,30DA,30A2
    3303>30A2,30FC,30EB 3304>30A4,30CB,30F3,30B0 3305>30A4,30F3,30C1 3306>30A6,30A9,30F3
    3307>30A8,30B9,30AF,30FC,30C9 3308>30A8,30FC,30AB,30FC 3309>30AA,30F3,30B9 330A>30AA,30FC,30E0
    330B>30AB,30A4,30EA 330C>30AB,30E9,30C3,30C8 330D>30AB,30ED,30EA,30FC 330E>30AC,30ED,30F3
    330F>30AC,30F3,30DE 3310>30AE,30AC 3311>30AE,30CB,30FC 3312>30AD,30E5,30EA,30FC
    3313>30AE,30EB,30C0,30FC 3314>30AD,30ED 3315>30AD,30ED,30B0,30E9,30E0
    3316>30AD,30ED,30E1,30FC,30C8,30EB 3317>30AD,30ED,30EF,30C3,30C8 3318>30B0,30E9,30E0
    3319>30B0,30E9,30E0,30C8,30F3 331A>30AF,30EB,30BC,30A4,30ED 331B>30AF,30ED,30FC,30CD
    331C>30B1,30FC,30B9 331D>30B3,30EB,30CA 331E>30B3,30FC,30DD 331F>30B5,30A4,30AF,30EB
    3320>30B5,30F3,30C1,30FC,30E0 3321>30B7,30EA,30F3,30B0 3322>30BB,30F3,30C1 3323>30BB,30F3,30C8
    3324>30C0,30FC,30B9 3325>30C7,30B7 3326>30C9,30EB 3327>30C8,30F3 3328>30CA,30CE
    3329>30CE,30C3,30C8 332A>30CF,30A4,30C4 332B>30D1,30FC,30BB,30F3,30C8 332C>30D1,30FC,30C4
    332D>30D0,30FC,30EC,30EB 332E>30D4,30A2,30B9,30C8,30EB 332F>30D4,30AF,30EB 3330>30D4,30B3
    3331>30D3,30EB 3332>30D5,30A1,30E9,30C3,30C9 3333>30D5,30A3,30FC,30C8
    3334>30D6,30C3,30B7,30A7,30EB 3335>30D5,30E9,30F3 3336>30D8,30AF,30BF,30FC,30EB 3337>30DA,30BD
    3338>30DA,30CB,30D2 3339>30D8,30EB,30C4 333A>30DA,30F3,30B9 333B>30DA,30FC,30B8
    333C>30D9,30FC,30BF 333D>30DD,30A4,30F3,30C8 333E>30DC,30EB,30C8 333F>30DB,30F3
    3340>30DD,30F3,30C9 3341>30DB,30FC,30EB 3342>30DB,30FC,30F3 3343>30DE,30A4,30AF,30ED
    3344>30DE,30A4,30EB 3345>30DE,30C3,30CF 3346>30DE,30EB,30AF 3347>30DE,30F3,30B7,30E7,30F3
    3348>30DF,30AF,30ED,30F3 3349>30DF,30EA 334A>30DF,30EA,30D0,30FC,30EB 334B>30E1,30AC
    334C>30E1,30AC,30C8,30F3 334D>30E1,30FC,30C8,30EB 334E>30E4,30FC,30C9 334F>30E4,30FC,30EB
    3350>30E6,30A2,30F3 3351>30EA,30C3,30C8,30EB 3352>30EA,30E9 3353>30EB,30D4,30FC
    3354>30EB,30FC,30D6,30EB 3355>30EC,30E0 3356>30EC,30F3,30C8,30B2,30F3 3357>30EF,30C3,30C8
    3358>30,70B9 3359>31,70B9 335A>32,70B9 335B>33,70B9 335C>34,70B9 335D>35,70B9 335E>36,70B9
    335F>37,70B9 3360>38,70B9 3361>39,70B9 3362>31,30,70B9 3363>31,31,70B9 3364>31,32,70B9
    3365>31,33,70B9 3366>31,34,70B9 3367>31,35,70B9 3368>31,36,70B9 3369>31,37,70B9 336A>31,38,70B9
    336B>31,39,70B9 336C>32,30,70B9 336D>32,31,70B9 336E>32,32,70B9 336F>32,33,70B9 3370>32,34,70B9
    3371>68,70,61 3372>64,61 3373>61,75 3374>62,61,72 3375>6F,76 3376>70,63 3377>64,6D 3378>64,6D,32
    3379>64,6D,33 337A>69,75 337B>5E73,6210 337C>662D,548C 337D>5927,6B63 337E>660E,6CBB
    337F>682A,5F0F,4F1A,793E 3380>70,61 3381>6E,61 3382>3BC,61 3383>6D,61 3384>6B,61 3385>6B,62
    3386>6D,62 3387>67,62 3388>63,61,6C 3389>6B,63,61,6C 338A>70,66 338B>6E,66 338C>3BC,66
    338D>3BC,67 338E>6D,67 338F>6B,67 3390>68,7A 3391>6B,68,7A 3392>6D,68,7A 3393>67,68,7A
    3394>74,68,7A 3395>3BC,6C 3396>6D,6C 3397>64,6C 3398>6B,6C 3399>66,6D 339A>6E,6D 339B>3BC,6D
    339C>6D,6D 339D>63,6D 339E>6B,6D 339F>6D,6D,32 33A0>63,6D,32 33A1>6D,32 33A2>6B,6D,32
    33A3>6D,6D,33 33A4>63,6D,33 33A5>6D,33 33A6>6B,6D,33 33A7>6D,2215,73 33A8>6D,2215,73,32
    33A9>70,61 33AA>6B,70,61 33AB>6D,70,61 33AC>67,70,61 33AD>72,61,64 33AE>72,61,64,2215,73
    33AF>72,61,64,2215,73,32 33B0>70,73 33B1>6E,73 33B2>3BC,73 33B3>6D,73 33B4>70,76 33B5>6E,76
    33B6>3BC,76 33B7>6D,76 33B8>6B,76 33B9>6D,76 33BA>70,77 33BB>6E,77 33BC>3BC,77 33BD>6D,77
    33BE>6B,77 33BF>6D,77 33C0>6B,3C9 33C1>6D,3C9 33C2!1 33C3>62,71 33C4>63,63 33C5>63,64
    33C6>63,2215,6B,67 33C7!1 33C8>64,62 33C9>67,79 33CA>68,61 33CB>68,70 33CC>69,6E 33CD>6B,6B
    33CE>6B,6D 33CF>6B,74 33D0>6C,6D 33D1>6C,6E 33D2>6C,6F,67 33D3>6C,78 33D4>6D,62 33D5>6D,69,6C
    33D6>6D,6F,6C 33D7>70,68 33D8!1 33D9>70,70,6D 33DA>70,72 33DB>73,72 33DC>73,76 33DD>77,62
    33DE>76,2215,6D 33DF>61,2215,6D 33E0>31,65E5 33E1>32,65E5 33E2>33,65E5 33E3>34,65E5 33E4>35,65E5
    33E5>36,65E5 33E6>37,65E5 33E7>38,65E5 33E8>39,65E5 33E9>31,30,65E5 33EA>31,31,65E5
    33EB>31,32,65E5 33EC>31,33,65E5 33ED>31,34,65E5 33EE>31,35,65E5 33EF>31,36,65E5 33F0>31,37,65E5
    33F1>31,38,65E5 33F2>31,39,65E5 33F3>32,30,65E5 33F4>32,31,65E5 33F5>32,32,65E5 33F6>32,33,65E5
    33F7>32,34,65E5 33F8>32,35,65E5 33F9>32,36,65E5 33FA>32,37,65E5 33FB>32,38,65E5 33FC>32,39,65E5
    33FD>33,30,65E5 33FE>33,31,65E5 33FF>67,61,6C A48D!3 A4C7!9 A62C!14 A640*17,A641 A680*E,A681
    A69C+1,44A A69D+1,44C A6F8!8 A722*7,A723 A732*1F,A733 A770+1,A76F A779*2,A77A A77D+1,1D79
    A77E*5,A77F A78B+1,A78C A78D+1,265 A790*2,A791 A796*A,A797 A7AA+1,266 A7AB+1,25C A7AC+1,261
    A7AD+1,26C A7AE+1,26A A7B0+1,29E A7B1+1,287 A7B2+1,29D A7B3+1,AB53 A7B4*8,A7B5 A7C4+1,A794
    A7C5+1,282 A7C6+1,1D8E A7C7*2,A7C8 A7CB+1,264 A7CC*8,A7CD A7DC+1,19B A7DD!14 A7F1+1,73 A7F2+1,63
    A7F3+1,66 A7F4+1,71 A7F5+1,A7F6 A7F8+1,127 A7F9+1,153 A82D!3 A83A!6 A878!8 A8C6!8 A8DA!6 A954!B
    A97D!3 A9CE!1 A9DA!4 A9FF!1 AA37!9 AA4E!2 AA5A!2 AAC3!18 AAF7!A AB07!2 AB0F!2 AB17!9 AB27!1
    AB2F!1 AB5C+1,A727 AB5D+1,AB37 AB5E+1,26B AB5F+1,AB52 AB69+1,28D AB6C!4 AB70+50,13A0 ABEE!2
    ABFA!6 D7A4!C D7C7!4 D7FC!2104 F900+1,8C48 F901+1,66F4 F902+1,8ECA F903+1,8CC8 F904+1,6ED1
    F905+1,4E32 F906+1,53E5 F907=2,9F9C F909+1,5951 F90A+1,91D1 F90B+1,5587 F90C+1,5948 F90D+1,61F6
    F90E+1,7669 F90F+1,7F85 F910+1,863F F911+1,87BA F912+1,88F8 F913+1,908F F914+1,6A02 F915+1,6D1B
    F916+1,70D9 F917+1,73DE F918+1,843D F919+1,916A F91A+1,99F1 F91B+1,4E82 F91C+1,5375 F91D+1,6B04
    F91E+1,721B F91F+1,862D F920+1,9E1E F921+1,5D50 F922+1,6FEB F923+1,85CD F924+1,8964 F925+1,62C9
    F926+1,81D8 F927+1,881F F928+1,5ECA F929+1,6717 F92A+1,6D6A F92B+1,72FC F92C+1,90CE F92D+1,4F86
    F92E+1,51B7 F92F+1,52DE F930+1,64C4 F931+1,6AD3 F932+1,7210 F933+1,76E7 F934+1,8001 F935+1,8606
    F936+1,865C F937+1,8DEF F938+1,9732 F939+1,9B6F F93A+1,9DFA F93B+1,788C F93C+1,797F F93D+1,7DA0
    F93E+1,83C9 F93F+1,9304 F940+1,9E7F F941+1,8AD6 F942+1,58DF F943+1,5F04 F944+1,7C60 F945+1,807E
    F946+1,7262 F947+1,78CA F948+1,8CC2 F949+1,96F7 F94A+1,58D8 F94B+1,5C62 F94C+1,6A13 F94D+1,6DDA
    F94E+1,6F0F F94F+1,7D2F F950+1,7E37 F951+1,964B F952+1,52D2 F953+1,808B F954+1,51DC F955+1,51CC
    F956+1,7A1C F957+1,7DBE F958+1,83F1 F959+1,9675 F95A+1,8B80 F95B+1,62CF F95C+1,6A02 F95D+1,8AFE
    F95E+1,4E39 F95F+1,5BE7 F960+1,6012 F961+1,7387 F962+1,7570 F963+1,5317 F964+1,78FB F965+1,4FBF
    F966+1,5FA9 F967+1,4E0D F968+1,6CCC F969+1,6578 F96A+1,7D22 F96B+1,53C3 F96C+1,585E F96D+1,7701
    F96E+1,8449 F96F+1,8AAA F970+1,6BBA F971+1,8FB0 F972+1,6C88 F973+1,62FE F974+1,82E5 F975+1,63A0
    F976+1,7565 F977+1,4EAE F978+1,5169 F979+1,51C9 F97A+1,6881 F97B+1,7CE7 F97C+1,826F F97D+1,8AD2
    F97E+1,91CF F97F+1,52F5 F980+1,5442 F981+1,5973 F982+1,5EEC F983+1,65C5 F984+1,6FFE F985+1,792A
    F986+1,95AD F987+1,9A6A F988+1,9E97 F989+1,9ECE F98A+1,529B F98B+1,66C6 F98C+1,6B77 F98D+1,8F62
    F98E+1,5E74 F98F+1,6190 F990+1,6200 F991+1,649A F992+1,6F23 F993+1,7149 F994+1,7489 F995+1,79CA
    F996+1,7DF4 F997+1,806F F998+1,8F26 F999+1,84EE F99A+1,9023 F99B+1,934A F99C+1,5217 F99D+1,52A3
    F99E+1,54BD F99F+1,70C8 F9A0+1,88C2 F9A1+1,8AAA F9A2+1,5EC9 F9A3+1,5FF5 F9A4+1,637B F9A5+1,6BAE
    F9A6+1,7C3E F9A7+1,7375 F9A8+1,4EE4 F9A9+1,56F9 F9AA+1,5BE7 F9AB+1,5DBA F9AC+1,601C F9AD+1,73B2
    F9AE+1,7469 F9AF+1,7F9A F9B0+1,8046 F9B1+1,9234 F9B2+1,96F6 F9B3+1,9748 F9B4+1,9818 F9B5+1,4F8B
    F9B6+1,79AE F9B7+1,91B4 F9B8+1,96B8 F9B9+1,60E1 F9BA+1,4E86 F9BB+1,50DA F9BC+1,5BEE F9BD+1,5C3F
    F9BE+1,6599 F9BF+1,6A02 F9C0+1,71CE F9C1+1,7642 F9C2+1,84FC F9C3+1,907C F9C4+1,9F8D F9C5+1,6688
    F9C6+1,962E F9C7+1,5289 F9C8+1,677B F9C9+1,67F3 F9CA+1,6D41 F9CB+1,6E9C F9CC+1,7409 F9CD+1,7559
    F9CE+1,786B F9CF+1,7D10 F9D0+1,985E F9D1+1,516D F9D2+1,622E F9D3+1,9678 F9D4+1,502B F9D5+1,5D19
    F9D6+1,6DEA F9D7+1,8F2A F9D8+1,5F8B F9D9+1,6144 F9DA+1,6817 F9DB+1,7387 F9DC+1,9686 F9DD+1,5229
    F9DE+1,540F F9DF+1,5C65 F9E0+1,6613 F9E1+1,674E F9E2+1,68A8 F9E3+1,6CE5 F9E4+1,7406 F9E5+1,75E2
    F9E6+1,7F79 F9E7+1,88CF F9E8+1,88E1 F9E9+1,91CC F9EA+1,96E2 F9EB+1,533F F9EC+1,6EBA F9ED+1,541D
    F9EE+1,71D0 F9EF+1,7498 F9F0+1,85FA F9F1+1,96A3 F9F2+1,9C57 F9F3+1,9E9F F9F4+1,6797 F9F5+1,6DCB
    F9F6+1,81E8 F9F7+1,7ACB F9F8+1,7B20 F9F9+1,7C92 F9FA+1,72C0 F9FB+1,7099 F9FC+1,8B58 F9FD+1,4EC0
    F9FE+1,8336 F9FF+1,523A FA00+1,5207 FA01+1,5EA6 FA02+1,62D3 FA03+1,7CD6 FA04+1,5B85 FA05+1,6D1E
    FA06+1,66B4 FA07+1,8F3B FA08+1,884C FA09+1,964D FA0A+1,898B FA0B+1,5ED3 FA0C+1,5140 FA0D+1,55C0
    FA10+1,585A FA12+1,6674 FA15+1,51DE FA16+1,732A FA17+1,76CA FA18+1,793C FA19+1,795E FA1A+1,7965
    FA1B+1,798F FA1C+1,9756 FA1D+1,7CBE FA1E+1,7FBD FA20+1,8612 FA22+1,8AF8 FA25+1,9038 FA26+1,90FD
    FA2A+1,98EF FA2B+1,98FC FA2C+1,9928 FA2D+1,9DB4 FA2E+1,90DE FA2F+1,96B7 FA30+1,4FAE FA31+1,50E7
    FA32+1,514D FA33+1,52C9 FA34+1,52E4 FA35+1,5351 FA36+1,559D FA37+1,5606 FA38+1,5668 FA39+1,5840
    FA3A+1,58A8 FA3B+1,5C64 FA3C+1,5C6E FA3D+1,6094 FA3E+1,6168 FA3F+1,618E FA40+1,61F2 FA41+1,654F
    FA42+1,65E2 FA43+1,6691 FA44+1,6885 FA45+1,6D77 FA46+1,6E1A FA47+1,6F22 FA48+1,716E FA49+1,722B
    FA4A+1,7422 FA4B+1,7891 FA4C+1,793E FA4D+1,7949 FA4E+1,7948 FA4F+1,7950 FA50+1,7956 FA51+1,795D
    FA52+2,798D FA54+1,7A40 FA55+1,7A81 FA56+1,7BC0 FA57+1,7DF4 FA58+1,7E09 FA59+1,7E41 FA5A+1,7F72
    FA5B+1,8005 FA5C+1,81ED FA5D=2,8279 FA5F+1,8457 FA60+1,8910 FA61+1,8996 FA62+1,8B01 FA63+1,8B39
    FA64+1,8CD3 FA65+1,8D08 FA66+1,8FB6 FA67+1,9038 FA68+1,96E3 FA69+1,97FF FA6A+1,983B FA6B+1,6075
    FA6C+1,242EE FA6D+1,8218 FA6E!2 FA70+1,4E26 FA71+1,51B5 FA72+1,5168 FA73+1,4F80 FA74+1,5145
    FA75+1,5180 FA76+1,52C7 FA77+1,52FA FA78+1,559D FA79+1,5555 FA7A+1,5599 FA7B+1,55E2 FA7C+1,585A
    FA7D+1,58B3 FA7E+1,5944 FA7F+1,5954 FA80+1,5A62 FA81+1,5B28 FA82+1,5ED2 FA83+1,5ED9 FA84+1,5F69
    FA85+1,5FAD FA86+1,60D8 FA87+1,614E FA88+1,6108 FA89+1,618E FA8A+1,6160 FA8B+1,61F2 FA8C+1,6234
    FA8D+1,63C4 FA8E+1,641C FA8F+1,6452 FA90+1,6556 FA91+1,6674 FA92+1,6717 FA93+1,671B FA94+1,6756
    FA95+1,6B79 FA96+1,6BBA FA97+1,6D41 FA98+1,6EDB FA99+1,6ECB FA9A+1,6F22 FA9B+1,701E FA9C+1,716E
    FA9D+1,77A7 FA9E+1,7235 FA9F+1,72AF FAA0+1,732A FAA1+1,7471 FAA2+1,7506 FAA3+1,753B FAA4+1,761D
    FAA5+1,761F FAA6+1,76CA FAA7+1,76DB FAA8+1,76F4 FAA9+1,774A FAAA+1,7740 FAAB+1,78CC FAAC+1,7AB1
    FAAD+1,7BC0 FAAE+1,7C7B FAAF+1,7D5B FAB0+1,7DF4 FAB1+1,7F3E FAB2+1,8005 FAB3+1,8352 FAB4+1,83EF
    FAB5+1,8779 FAB6+1,8941 FAB7+1,8986 FAB8+1,8996 FAB9+1,8ABF FABA+1,8AF8 FABB+1,8ACB FABC+1,8B01
    FABD+1,8AFE FABE+1,8AED FABF+1,8B39 FAC0+1,8B8A FAC1+1,8D08 FAC2+1,8F38 FAC3+1,9072 FAC4+1,9199
    FAC5+1,9276 FAC6+1,967C FAC7+1,96E3 FAC8+1,9756 FAC9+1,97DB FACA+1,97FF FACB+1,980B FACC+1,983B
    FACD+1,9B12 FACE+1,9F9C FACF+1,2284A FAD0+1,22844 FAD1+1,233D5 FAD2+1,3B9D FAD3+1,4018
    FAD4+1,4039 FAD5+1,25249 FAD6+1,25CD0 FAD7+1,27ED3 FAD8+1,9F43 FAD9+1,9F8E FADA!26 FB00>66,66
    FB01>66,69 FB02>66,6C FB03>66,66,69 FB04>66,66,6C FB05>73,74 FB06>73,74 FB07!C FB13>574,576
    FB14>574,565 FB15>574,56B FB16>57E,576 FB17>574,56D FB18!5 FB1D>5D9,5B4 FB1F>5F2,5B7 FB20+1,5E2
    FB21+1,5D0 FB22+2,5D3 FB24+3,5DB FB27+1,5E8 FB28+1,5EA FB29+1,2B FB2A>5E9,5C1 FB2B>5E9,5C2
    FB2C>5E9,5BC,5C1 FB2D>5E9,5BC,5C2 FB2E>5D0,5B7 FB2F>5D0,5B8 FB30>5D0,5BC FB31>5D1,5BC
    FB32>5D2,5BC FB33>5D3,5BC FB34>5D4,5BC FB35>5D5,5BC FB36>5D6,5BC FB37!1 FB38>5D8,5BC
    FB39>5D9,5BC FB3A>5DA,5BC FB3B>5DB,5BC FB3C>5DC,5BC FB3D!1 FB3E>5DE,5BC FB3F!1 FB40>5E0,5BC
    FB41>5E1,5BC FB42!1 FB43>5E3,5BC FB44>5E4,5BC FB45!1 FB46>5E6,5BC FB47>5E7,5BC FB48>5E8,5BC
    FB49>5E9,5BC FB4A>5EA,5BC FB4B>5D5,5B9 FB4C>5D1,5BF FB4D>5DB,5BF FB4E>5E4,5BF FB4F>5D0,5DC
    FB50=2,671 FB52=4,67B FB56=4,67E FB5A=4,680 FB5E=4,67A FB62=4,67F FB66=4,679 FB6A=4,6A4
    FB6E=4,6A6 FB72=4,684 FB76=4,683 FB7A=4,686 FB7E=4,687 FB82=2,68D FB84*2,68C FB85*2,68C
    FB88=2,688 FB8A=2,698 FB8C=2,691 FB8E=4,6A9 FB92=4,6AF FB96=4,6B3 FB9A=4,6B1 FB9E=2,6BA
    FBA0=4,6BB FBA4=2,6C0 FBA6=4,6C1 FBAA=4,6BE FBAE=2,6D2 FBB0=2,6D3 FBD3=4,6AD FBD7=2,6C7
    FBD9*2,6C6 FBDA*2,6C6 FBDD>6C7,674 FBDE=2,6CB FBE0=2,6C5 FBE2=2,6C9 FBE4=4,6D0 FBE8=2,649
    FBEA>626,627 FBEB>626,627 FBEC>626,6D5 FBED>626,6D5 FBEE>626,648 FBEF>626,648 FBF0>626,6C7
    FBF1>626,6C7 FBF2>626,6C6 FBF3>626,6C6 FBF4>626,6C8 FBF5>626,6C8 FBF6>626,6D0 FBF7>626,6D0
    FBF8>626,6D0 FBF9>626,649 FBFA>626,649 FBFB>626,649 FBFC=4,6CC FC00>626,62C FC01>626,62D
    FC02>626,645 FC03>626,649 FC04>626,64A FC05>628,62C FC06>628,62D FC07>628,62E FC08>628,645
    FC09>628,649 FC0A>628,64A FC0B>62A,62C FC0C>62A,62D FC0D>62A,62E FC0E>62A,645 FC0F>62A,649
    FC10>62A,64A FC11>62B,62C FC12>62B,645 FC13>62B,649 FC14>62B,64A FC15>62C,62D FC16>62C,645
    FC17>62D,62C FC18>62D,645 FC19>62E,62C FC1A>62E,62D FC1B>62E,645 FC1C>633,62C FC1D>633,62D
    FC1E>633,62E FC1F>633,645 FC20>635,62D FC21>635,645 FC22>636,62C FC23>636,62D FC24>636,62E
    FC25>636,645 FC26>637,62D FC27>637,645 FC28>638,645 FC29>639,62C FC2A>639,645 FC2B>63A,62C
    FC2C>63A,645 FC2D>641,62C FC2E>641,62D FC2F>641,62E FC30>641,645 FC31>641,649 FC32>641,64A
    FC33>642,62D FC34>642,645 FC35>642,649 FC36>642,64A FC37>643,627 FC38>643,62C FC39>643,62D
    FC3A>643,62E FC3B>643,644 FC3C>643,645 FC3D>643,649 FC3E>643,64A FC3F>644,62C FC40>644,62D
    FC41>644,62E FC42>644,645 FC43>644,649 FC44>644,64A FC45>645,62C FC46>645,62D FC47>645,62E
    FC48>645,645 FC49>645,649 FC4A>645,64A FC4B>646,62C FC4C>646,62D FC4D>646,62E FC4E>646,645
    FC4F>646,649 FC50>646,64A FC51>647,62C FC52>647,645 FC53>647,649 FC54>647,64A FC55>64A,62C
    FC56>64A,62D FC57>64A,62E FC58>64A,645 FC59>64A,649 FC5A>64A,64A FC5B>630,670 FC5C>631,670
    FC5D>649,670 FC5E>20,64C,651 FC5F>20,64D,651 FC60>20,64E,651 FC61>20,64F,651 FC62>20,650,651
    FC63>20,651,670 FC64>626,631 FC65>626,632 FC66>626,645 FC67>626,646 FC68>626,649 FC69>626,64A
    FC6A>628,631 FC6B>628,632 FC6C>628,645 FC6D>628,646 FC6E>628,649 FC6F>628,64A FC70>62A,631
    FC71>62A,632 FC72>62A,645 FC73>62A,646 FC74>62A,649 FC75>62A,64A FC76>62B,631 FC77>62B,632
    FC78>62B,645 FC79>62B,646 FC7A>62B,649 FC7B>62B,64A FC7C>641,649 FC7D>641,64A FC7E>642,649
    FC7F>642,64A FC80>643,627 FC81>643,644 FC82>643,645 FC83>643,649 FC84>643,64A FC85>644,645
    FC86>644,649 FC87>644,64A FC88>645,627 FC89>645,645 FC8A>646,631 FC8B>646,632 FC8C>646,645
    FC8D>646,646 FC8E>646,649 FC8F>646,64A FC90>649,670 FC91>64A,631 FC92>64A,632 FC93>64A,645
    FC94>64A,646 FC95>64A,649 FC96>64A,64A FC97>626,62C FC98>626,62D FC99>626,62E FC9A>626,645
    FC9B>626,647 FC9C>628,62C FC9D>628,62D FC9E>628,62E FC9F>628,645 FCA0>628,647 FCA1>62A,62C
    FCA2>62A,62D FCA3>62A,62E FCA4>62A,645 FCA5>62A,647 FCA6>62B,645 FCA7>62C,62D FCA8>62C,645
    FCA9>62D,62C FCAA>62D,645 FCAB>62E,62C FCAC>62E,645 FCAD>633,62C FCAE>633,62D FCAF>633,62E
    FCB0>633,645 FCB1>635,62D FCB2>635,62E FCB3>635,645 FCB4>636,62C FCB5>636,62D FCB6>636,62E
    FCB7>636,645 FCB8>637,62D FCB9>638,645 FCBA>639,62C FCBB>639,645 FCBC>63A,62C FCBD>63A,645
    FCBE>641,62C FCBF>641,62D FCC0>641,62E FCC1>641,645 FCC2>642,62D FCC3>642,645 FCC4>643,62C
    FCC5>643,62D FCC6>643,62E FCC7>643,644 FCC8>643,645 FCC9>644,62C FCCA>644,62D FCCB>644,62E
    FCCC>644,645 FCCD>644,647 FCCE>645,62C FCCF>645,62D FCD0>645,62E FCD1>645,645 FCD2>646,62C
    FCD3>646,62D FCD4>646,62E FCD5>646,645 FCD6>646,647 FCD7>647,62C FCD8>647,645 FCD9>647,670
    FCDA>64A,62C FCDB>64A,62D FCDC>64A,62E FCDD>64A,645 FCDE>64A,647 FCDF>626,645 FCE0>626,647
    FCE1>628,645 FCE2>628,647 FCE3>62A,645 FCE4>62A,647 FCE5>62B,645 FCE6>62B,647 FCE7>633,645
    FCE8>633,647 FCE9>634,645 FCEA>634,647 FCEB>643,644 FCEC>643,645 FCED>644,645 FCEE>646,645
    FCEF>646,647 FCF0>64A,645 FCF1>64A,647 FCF2>640,64E,651 FCF3>640,64F,651 FCF4>640,650,651
    FCF5>637,649 FCF6>637,64A FCF7>639,649 FCF8>639,64A FCF9>63A,649 FCFA>63A,64A FCFB>633,649
    FCFC>633,64A FCFD>634,649 FCFE>634,64A FCFF>62D,649 FD00>62D,64A FD01>62C,649 FD02>62C,64A
    FD03>62E,649 FD04>62E,64A FD05>635,649 FD06>635,64A FD07>636,649 FD08>636,64A FD09>634,62C
    FD0A>634,62D FD0B>634,62E FD0C>634,645 FD0D>634,631 FD0E>633,631 FD0F>635,631 FD10>636,631
    FD11>637,649 FD12>637,64A FD13>639,649 FD14>639,64A FD15>63A,649 FD16>63A,64A FD17>633,649
    FD18>633,64A FD19>634,649 FD1A>634,64A FD1B>62D,649 FD1C>62D,64A FD1D>62C,649 FD1E>62C,64A
    FD1F>62E,649 FD20>62E,64A FD21>635,649 FD22>635,64A FD23>636,649 FD24>636,64A FD25>634,62C
    FD26>634,62D FD27>634,62E FD28>634,645 FD29>634,631 FD2A>633,631 FD2B>635,631 FD2C>636,631
    FD2D>634,62C FD2E>634,62D FD2F>634,62E FD30>634,645 FD31>633,647 FD32>634,647 FD33>637,645
    FD34>633,62C FD35>633,62D FD36>633,62E FD37>634,62C FD38>634,62D FD39>634,62E FD3A>637,645
    FD3B>638,645 FD3C>627,64B FD3D>627,64B FD50>62A,62C,645 FD51>62A,62D,62C FD52>62A,62D,62C
    FD53>62A,62D,645 FD54>62A,62E,645 FD55>62A,645,62C FD56>62A,645,62D FD57>62A,645,62E
    FD58>62C,645,62D FD59>62C,645,62D FD5A>62D,645,64A FD5B>62D,645,649 FD5C>633,62D,62C
    FD5D>633,62C,62D FD5E>633,62C,649 FD5F>633,645,62D FD60>633,645,62D FD61>633,645,62C
    FD62>633,645,645 FD63>633,645,645 FD64>635,62D,62D FD65>635,62D,62D FD66>635,645,645
    FD67>634,62D,645 FD68>634,62D,645 FD69>634,62C,64A FD6A>634,645,62E FD6B>634,645,62E
    FD6C>634,645,645 FD6D>634,645,645 FD6E>636,62D,649 FD6F>636,62E,645 FD70>636,62E,645
    FD71>637,645,62D FD72>637,645,62D FD73>637,645,645 FD74>637,645,64A FD75>639,62C,645
    FD76>639,645,645 FD77>639,645,645 FD78>639,645,649 FD79>63A,645,645 FD7A>63A,645,64A
    FD7B>63A,645,649 FD7C>641,62E,645 FD7D>641,62E,645 FD7E>642,645,62D FD7F>642,645,645
    FD80>644,62D,645 FD81>644,62D,64A FD82>644,62D,649 FD83>644,62C,62C FD84>644,62C,62C
    FD85>644,62E,645 FD86>644,62E,645 FD87>644,645,62D FD88>644,645,62D FD89>645,62D,62C
    FD8A>645,62D,645 FD8B>645,62D,64A FD8C>645,62C,62D FD8D>645,62C,645 FD8E>645,62E,62C
    FD8F>645,62E,645 FD92>645,62C,62E FD93>647,645,62C FD94>647,645,645 FD95>646,62D,645
    FD96>646,62D,649 FD97>646,62C,645 FD98>646,62C,645 FD99>646,62C,649 FD9A>646,645,64A
    FD9B>646,645,649 FD9C>64A,645,645 FD9D>64A,645,645 FD9E>628,62E,64A FD9F>62A,62C,64A
    FDA0>62A,62C,649 FDA1>62A,62E,64A FDA2>62A,62E,649 FDA3>62A,645,64A FDA4>62A,645,649
    FDA5>62C,645,64A FDA6>62C,62D,649 FDA7>62C,645,649 FDA8>633,62E,649 FDA9>635,62D,64A
    FDAA>634,62D,64A FDAB>636,62D,64A FDAC>644,62C,64A FDAD>644,645,64A FDAE>64A,62D,64A
    FDAF>64A,62C,64A FDB0>64A,645,64A FDB1>645,645,64A FDB2>642,645,64A FDB3>646,62D,64A
    FDB4>642,645,62D FDB5>644,62D,645 FDB6>639,645,64A FDB7>643,645,64A FDB8>646,62C,62D
    FDB9>645,62E,64A FDBA>644,62C,645 FDBB>643,645,645 FDBC>644,62C,645 FDBD>646,62C,62D
    FDBE>62C,62D,64A FDBF>62D,62C,64A FDC0>645,62C,64A FDC1>641,645,64A FDC2>628,62D,64A
    FDC3>643,645,645 FDC4>639,62C,645 FDC5>635,645,645 FDC6>633,62E,64A FDC7>646,62C,64A FDD0!20
    FDF0>635,644,6D2 FDF1>642,644,6D2 FDF2>627,644,644,647 FDF3>627,643,628,631 FDF4>645,62D,645,62F
    FDF5>635,644,639,645 FDF6>631,633,648,644 FDF7>639,644,64A,647 FDF8>648,633,644,645
    FDF9>635,644,649 FDFA>635,644,649,20,627,644,644,647,20,639,644,64A,647,20,648,633,644,645
    FDFB>62C,644,20,62C,644,627,644,647 FDFC>631,6CC,627,644 FE00~10 FE10+1,2C FE11+1,3001 FE12!1
    FE13+2,3A FE15+1,21 FE16+1,3F FE17+2,3016 FE19!7 FE30!1 FE31+1,2014 FE32+1,2013 FE33=2,5F
    FE35+2,28 FE37+1,7B FE38+1,7D FE39+2,3014 FE3B+2,3010 FE3D+2,300A FE3F+2,3008 FE41+4,300C
    FE47+1,5B FE48+1,5D FE49>20,305 FE4A>20,305 FE4B>20,305 FE4C>20,305 FE4D=3,5F FE50+1,2C
    FE51+1,3001 FE52!2 FE54+1,3B FE55+1,3A FE56+1,3F FE57+1,21 FE58+1,2014 FE59+2,28 FE5B+1,7B
    FE5C+1,7D FE5D+2,3014 FE5F+1,23 FE60+1,26 FE61+2,2A FE63+1,2D FE64+1,3C FE65+1,3E FE66+1,3D
    FE67!1 FE68+1,5C FE69+2,24 FE6B+1,40 FE6C!4 FE70>20,64B FE71>640,64B FE72>20,64C FE74>20,64D
    FE75!1 FE76>20,64E FE77>640,64E FE78>20,64F FE79>640,64F FE7A>20,650 FE7B>640,650 FE7C>20,651
    FE7D>640,651 FE7E>20,652 FE7F>640,652 FE80+2,621 FE82+2,622 FE84+2,623 FE86+2,624 FE88+2,625
    FE8A=3,626 FE8D=2,627 FE8F=4,628 FE93=2,629 FE95=4,62A FE99=4,62B FE9D=4,62C FEA1=4,62D
    FEA5=4,62E FEA9=2,62F FEAB=2,630 FEAD=2,631 FEAF=2,632 FEB1=4,633 FEB5=4,634 FEB9=4,635
    FEBD=4,636 FEC1=4,637 FEC5=4,638 FEC9=4,639 FECD=4,63A FED1=4,641 FED5=4,642 FED9=4,643
    FEDD=4,644 FEE1=4,645 FEE5=4,646 FEE9=4,647 FEED=2,648 FEEF=2,649 FEF1=4,64A FEF5>644,622
    FEF6>644,622 FEF7>644,623 FEF8>644,623 FEF9>644,625 FEFA>644,625 FEFB>644,627 FEFC>644,627
    FEFD!2 FEFF~1 FF00!1 FF01+20,21 FF21+1A,61 FF3B+24,5B FF5F+2,2985 FF61+1,2E FF62+2,300C
    FF64+1,3001 FF65+1,30FB FF66+1,30F2 FF67+1,30A1 FF68+1,30A3 FF69+1,30A5 FF6A+1,30A7 FF6B+1,30A9
    FF6C+1,30E3 FF6D+1,30E5 FF6E+1,30E7 FF6F+1,30C3 FF70+1,30FC FF71+1,30A2 FF72+1,30A4 FF73+1,30A6
    FF74+1,30A8 FF75+2,30AA FF77+1,30AD FF78+1,30AF FF79+1,30B1 FF7A+1,30B3 FF7B+1,30B5 FF7C+1,30B7
    FF7D+1,30B9 FF7E+1,30BB FF7F+1,30BD FF80+1,30BF FF81+1,30C1 FF82+1,30C4 FF83+1,30C6 FF84+1,30C8
    FF85+6,30CA FF8B+1,30D2 FF8C+1,30D5 FF8D+1,30D8 FF8E+1,30DB FF8F+5,30DE FF94+1,30E4 FF95+1,30E6
    FF96+6,30E8 FF9C+1,30EF FF9D+1,30F3 FF9E+2,3099 FFA0~1 FFA1+2,1100 FFA3*2,11AA FFA4+1,1102
    FFA6+1,11AD FFA7+3,1103 FFAA+6,11B0 FFB0+1,111A FFB1+3,1106 FFB4+1,1121 FFB5+A,1109 FFBF!3
    FFC2+6,1161 FFC8!2 FFCA+6,1167 FFD0!2 FFD2+6,116D FFD8!2 FFDA+3,1173 FFDD!3 FFE0+2,A2 FFE2+1,AC
    FFE3>20,304 FFE4+1,A6 FFE5+1,A5 FFE6+1,20A9 FFE7!1 FFE8+1,2502 FFE9+4,2190 FFED+1,25A0
    FFEE+1,25CB FFEF!11 1000C!1 10027!1 1003B!1 1003E!1 1004E!2 1005E!22 100FB!5 10103!4 10134!3
    1018F!1 1019D!3 101A1!2F 101FE!82 1029D!3 102D1!F 102FC!4 10324!9 1034B!5 1037B!5 1039E!1
    103C4!4 103D6!2A 10400+28,10428 1049E!2 104AA!6 104B0+24,104D8 104D4!4 104FC!4 10528!8 10564!B
    10570*13,10597 10571*5,10598 1057B!1 1057D*7,105A4 1058B!1 1058D*3,105B4 10593!1 10595+1,105BC
    10596!1 105A2!1 105B2!1 105BA!1 105BD!3 105F4!C 10737!9 10756!A 10768!18 10781+2,2D0 10783+1,E6
    10784+1,299 10785+1,253 10786!1 10787*2,2A3 10788+1,AB66 1078A+1,2A4 1078B+2,256 1078D+1,1D91
    1078E+1,258 1078F+1,25E 10790+1,2A9 10791+1,264 10792+1,262 10793+1,260 10794+1,29B 10795+1,127
    10796+1,29C 10797+1,267 10798+1,284 10799+2,2AA 1079B+1,26C 1079C+1,1DF04 1079D+1,A78E
    1079E+1,26E 1079F+1,1DF05 107A0+1,28E 107A1+1,1DF06 107A2+1,F8 107A3+2,276 107A5+1,71
    107A6+1,27A 107A7+1,1DF08 107A8+2,27D 107AA+1,280 107AB+1,2A8 107AC+1,2A6 107AD+1,AB67
    107AE+1,2A7 107AF+1,288 107B0+1,2C71 107B1!1 107B2+1,28F 107B3+2,2A1 107B5+1,298 107B6+3,1C0
    107B9+1,1DF0A 107BA+1,1DF1E 107BB!45 10806!2 10809!1 10836!1 10839!3 1083D!2 10856!1 1089F!8
    108B0!30 108F3!1 108F6!5 1091C!3 1093A!5 1095A!26 109B8!4 109D0!2 10A04!1 10A07!5 10A14!1
    10A18!1 10A36!2 10A3B!4 10A49!7 10A59!7 10AA0!20 10AE7!4 10AF7!9 10B36!3 10B56!2 10B73!5 10B92!7
    10B9D!C 10BB0!50 10C49!37 10C80+33,10CC0 10CB3!D 10CF3!7 10D28!8 10D3A!6 10D50+16,10D70 10D66!3
    10D86!8 10D90!D0 10E7F!1 10EAA!1 10EAE!2 10EB2!10 10EC8!8 10ED9!21 10F28!8 10F5A!16 10F8A!26
    10FCC!14 10FF7!9 1104E!4 11076!9 110BD!1 110C3!D 110E9!7 110FA!6 11135!1 11148!8 11177!9 111E0!1
    111F5!B 11212!1 11242!3E 11287!1 11289!1 1128E!1 1129E!1 112AA!6 112EB!5 112FA!6 11304!1 1130D!2
    11311!2 11329!1 11331!1 11334!1 1133A!1 11345!2 11349!2 1134E!2 11351!6 11358!5 11364!2 1136D!3
    11375!B 1138A!1 1138C!2 1138F!1 113B6!1 113C1!1 113C3!2 113C6!1 113CB!1 113D6!1 113D9!8 113E3!1D
    1145C!1 11462!1E 114C8!8 114DA!A6 115B6!2 115DE!22 11645!B 1165A!6 1166D!13 116BA!6 116CA!6
    116E4!1C 1171B!2 1172C!4 11747!B9 1183C!64 118A0+20,118C0 118F3!C 11907!2 1190A!2 11914!1
    11917!1 11936!1 11939!2 11947!9 1195A!46 119A8!2 119D8!2 119E5!1B 11A48!8 11AA3!D 11AF9!7
    11B0A!56 11B68!58 11BE2!E 11BFA!6 11C09!1 11C37!1 11C46!A 11C6D!3 11C90!2 11CA8!1 11CB7!49
    11D07!1 11D0A!1 11D37!3 11D3B!1 11D3E!1 11D48!8 11D5A!6 11D66!1 11D69!1 11D8F!1 11D92!1 11D99!7
    11DAA!6 11DDC!4 11DEA!F6 11EF9!7 11F11!1 11F3B!3 11F5B!55 11FB1!F 11FF2!D 1239A!66 1246F!1
    12475!B 12544!A4C 12FF3!D 13430!10 13456!A 143FB!5 14647!1AB9 1613A!6C6 16A39!7 16A5F!1 16A6A!4
    16ABF!1 16ACA!6 16AEE!2 16AF6!A 16B46!A 16B5A!1 16B62!1 16B78!5 16B90!1B0 16D7A!C6
    16E40+20,16E60 16E9B!5 16EA0+19,16EBB 16EB9!2 16ED4!2C 16F4B!4 16F88!7 16FA0!40 16FE5!B 16FF7!9
    18CD6!29 18D1F!61 18DF3!21FD 1AFF4!1 1AFFC!1 1AFFF!1 1B123!F 1B133!1D 1B153!2 1B156!E 1B168!8
    1B2FC!904 1BC6B!5 1BC7D!3 1BC89!7 1BC9A!2 1BCA0~4 1BCA4!F5C 1CCD6+1A,61 1CCF0+A,30 1CCFD!3
    1CEB4!6 1CED1!F 1CEF1!F 1CF2E!2 1CF47!9 1CFC4!3C 1D0F6!A 1D127!2 1D15E>1D157,1D165
    1D15F>1D158,1D165 1D160>1D158,1D165,1D16E 1D161>1D158,1D165,1D16F 1D162>1D158,1D165,1D170
    1D163>1D158,1D165,1D171 1D164>1D158,1D165,1D172 1D173~8 1D1BB>1D1B9,1D165 1D1BC>1D1BA,1D165
    1D1BD>1D1B9,1D165,1D16E 1D1BE>1D1BA,1D165,1D16E 1D1BF>1D1B9,1D165,1D16F 1D1C0>1D1BA,1D165,1D16F
    1D1EB!15 1D246!7A 1D2D4!C 1D2F4!C 1D357!9 1D379!87 1D400+1A,61 1D41A+1A,61 1D434+1A,61
    1D44E*D,61 1D44F*3,62 1D455!1 1D457*9,6A 1D468+1A,61 1D482+1A,61 1D49C*2,61 1D49D!1 1D49F+1,64
    1D4A0!2 1D4A2+1,67 1D4A3!2 1D4A5+2,6A 1D4A7!2 1D4A9+4,6E 1D4AD!1 1D4AE+8,73 1D4B6+4,61 1D4BA!1
    1D4BB*B,66 1D4BC!1 1D4BE*3,69 1D4C4!1 1D4C6*5,71 1D4D0+1A,61 1D4EA+1A,61 1D504+2,61 1D506!1
    1D507+4,64 1D50B!2 1D50D+8,6A 1D515!1 1D516+7,73 1D51D!1 1D51E+1A,61 1D538+2,61 1D53A!1
    1D53B+4,64 1D53F!1 1D540+5,69 1D545!1 1D546+1,6F 1D547!3 1D54A+7,73 1D551!1 1D552+1A,61
    1D56C+1A,61 1D586+1A,61 1D5A0+1A,61 1D5BA+1A,61 1D5D4+1A,61 1D5EE+1A,61 1D608+1A,61 1D622+1A,61
    1D63C+1A,61 1D656+1A,61 1D670+1A,61 1D68A+1A,61 1D6A4+1,131 1D6A5+1,237 1D6A6!2 1D6A8+11,3B1
    1D6B9+1,3B8 1D6BA+7,3C3 1D6C1+1,2207 1D6C2+11,3B1 1D6D3=2,3C3 1D6D5+6,3C4 1D6DB+1,2202
    1D6DC+1,3B5 1D6DD+1,3B8 1D6DE+1,3BA 1D6DF+1,3C6 1D6E0+1,3C1 1D6E1+1,3C0 1D6E2+11,3B1 1D6F3+1,3B8
    1D6F4+7,3C3 1D6FB+1,2207 1D6FC+11,3B1 1D70D=2,3C3 1D70F+6,3C4 1D715+1,2202 1D716+1,3B5
    1D717+1,3B8 1D718+1,3BA 1D719+1,3C6 1D71A+1,3C1 1D71B+1,3C0 1D71C+11,3B1 1D72D+1,3B8 1D72E+7,3C3
    1D735+1,2207 1D736+11,3B1 1D747=2,3C3 1D749+6,3C4 1D74F+1,2202 1D750+1,3B5 1D751+1,3B8
    1D752+1,3BA 1D753+1,3C6 1D754+1,3C1 1D755+1,3C0 1D756+11,3B1 1D767+1,3B8 1D768+7,3C3
    1D76F+1,2207 1D770+11,3B1 1D781=2,3C3 1D783+6,3C4 1D789+1,2202 1D78A+1,3B5 1D78B+1,3B8
    1D78C+1,3BA 1D78D+1,3C6 1D78E+1,3C1 1D78F+1,3C0 1D790+11,3B1 1D7A1+1,3B8 1D7A2+7,3C3
    1D7A9+1,2207 1D7AA+11,3B1 1D7BB=2,3C3 1D7BD+6,3C4 1D7C3+1,2202 1D7C4+1,3B5 1D7C5+1,3B8
    1D7C6+1,3BA 1D7C7+1,3C6 1D7C8+1,3C1 1D7C9+1,3C0 1D7CA=2,3DD 1D7CC!2 1D7CE+A,30 1D7D8+A,30
    1D7E2+A,30 1D7EC+A,30 1D7F6+A,30 1DA8C!F 1DAA0!1 1DAB0!450 1DF1F!6 1DF2B!D5 1E007!1 1E019!2
    1E022!1 1E025!1 1E02B!5 1E030+9,430 1E039+3,43A 1E03C+B,43E 1E047+1,44B 1E048+2,44D 1E04A+1,A689
    1E04B+1,4D9 1E04C+1,456 1E04D+1,458 1E04E+1,4E9 1E04F+1,4AF 1E050+1,4CF 1E051+9,430 1E05A+2,43A
    1E05C+2,43E 1E05E+1,441 1E05F+6,443 1E065+2,44A 1E067+1,491 1E068+1,456 1E069+1,455 1E06A+1,45F
    1E06B+1,4AB 1E06C+1,A651 1E06D+1,4B1 1E06E!21 1E090!70 1E12D!3 1E13E!2 1E14A!4 1E150!140
    1E2AF!11 1E2FA!5 1E300!1D0 1E4FA!D6 1E5FB!4 1E600!C0 1E6DF!1 1E6F6!8 1E700!E0 1E7E7!1 1E7EC!1
    1E7EF!1 1E7FF!1 1E8C5!2 1E8D7!29 1E900+22,1E922 1E94C!4 1E95A!4 1E960!311 1ECB5!4C 1ED3E!C2
    1EE00+2,627 1EE02+1,62C 1EE03+1,62F 1EE04!1 1EE05+1,648 1EE06+1,632 1EE07+1,62D 1EE08+1,637
    1EE09+1,64A 1EE0A+4,643 1EE0E+1,633 1EE0F+1,639 1EE10+1,641 1EE11+1,635 1EE12+1,642 1EE13+1,631
    1EE14+1,634 1EE15+2,62A 1EE17+1,62E 1EE18+1,630 1EE19+1,636 1EE1A+1,638 1EE1B+1,63A 1EE1C+1,66E
    1EE1D+1,6BA 1EE1E+1,6A1 1EE1F+1,66F 1EE20!1 1EE21+1,628 1EE22+1,62C 1EE23!1 1EE24+1,647 1EE25!2
    1EE27+1,62D 1EE28!1 1EE29+1,64A 1EE2A+4,643 1EE2E+1,633 1EE2F+1,639 1EE30+1,641 1EE31+1,635
    1EE32+1,642 1EE33!1 1EE34+1,634 1EE35+2,62A 1EE37+1,62E 1EE38!1 1EE39+1,636 1EE3A!1 1EE3B+1,63A
    1EE3C!6 1EE42+1,62C 1EE43!4 1EE47+1,62D 1EE48!1 1EE49+1,64A 1EE4A!1 1EE4B*2,644 1EE4C!1
    1EE4E+1,633 1EE4F+1,639 1EE50!1 1EE51+1,635 1EE52+1,642 1EE53!1 1EE54+1,634 1EE55!2 1EE57+1,62E
    1EE58!1 1EE59+1,636 1EE5A!1 1EE5B+1,63A 1EE5C!1 1EE5D+1,6BA 1EE5E!1 1EE5F+1,66F 1EE60!1
    1EE61+1,628 1EE62+1,62C 1EE63!1 1EE64+1,647 1EE65!2 1EE67+1,62D 1EE68+1,637 1EE69+1,64A
    1EE6A*2,643 1EE6B!1 1EE6D+1,646 1EE6E+1,633 1EE6F+1,639 1EE70+1,641 1EE71+1,635 1EE72+1,642
    1EE73!1 1EE74+1,634 1EE75+2,62A 1EE77+1,62E 1EE78!1 1EE79+1,636 1EE7A+1,638 1EE7B+1,63A
    1EE7C+1,66E 1EE7D!1 1EE7E+1,6A1 1EE7F!1 1EE80+2,627 1EE82+1,62C 1EE83+1,62F 1EE84+2,647
    1EE86+1,632 1EE87+1,62D 1EE88+1,637 1EE89+1,64A 1EE8A!1 1EE8B+3,644 1EE8E+1,633 1EE8F+1,639
    1EE90+1,641 1EE91+1,635 1EE92+1,642 1EE93+1,631 1EE94+1,634 1EE95+2,62A 1EE97+1,62E 1EE98+1,630
    1EE99+1,636 1EE9A+1,638 1EE9B+1,63A 1EE9C!5 1EEA1+1,628 1EEA2+1,62C 1EEA3+1,62F 1EEA4!1
    1EEA5+1,648 1EEA6+1,632 1EEA7+1,62D 1EEA8+1,637 1EEA9+1,64A 1EEAA!1 1EEAB+3,644 1EEAE+1,633
    1EEAF+1,639 1EEB0+1,641 1EEB1+1,635 1EEB2+1,642 1EEB3+1,631 1EEB4+1,634 1EEB5+2,62A 1EEB7+1,62E
    1EEB8+1,630 1EEB9+1,636 1EEBA+1,638 1EEBB+1,63A 1EEBC!34 1EEF2!10E 1F02C!4 1F094!C 1F0AF!2
    1F0C0!1 1F0D0!1 1F0F6!B 1F101>30,2C 1F102>31,2C 1F103>32,2C 1F104>33,2C 1F105>34,2C 1F106>35,2C
    1F107>36,2C 1F108>37,2C 1F109>38,2C 1F10A>39,2C 1F110>28,61,29 1F111>28,62,29 1F112>28,63,29
    1F113>28,64,29 1F114>28,65,29 1F115>28,66,29 1F116>28,67,29 1F117>28,68,29 1F118>28,69,29
    1F119>28,6A,29 1F11A>28,6B,29 1F11B>28,6C,29 1F11C>28,6D,29 1F11D>28,6E,29 1F11E>28,6F,29
    1F11F>28,70,29 1F120>28,71,29 1F121>28,72,29 1F122>28,73,29 1F123>28,74,29 1F124>28,75,29
    1F125>28,76,29 1F126>28,77,29 1F127>28,78,29 1F128>28,79,29 1F129>28,7A,29 1F12A>3014,73,3015
    1F12B+1,63 1F12C+1,72 1F12D>63,64 1F12E>77,7A 1F130+1A,61 1F14A>68,76 1F14B>6D,76 1F14C>73,64
    1F14D>73,73 1F14E>70,70,76 1F14F>77,63 1F16A>6D,63 1F16B>6D,64 1F16C>6D,72 1F190>64,6A 1F1AE!38
    1F200>307B,304B 1F201>30B3,30B3 1F202+1,30B5 1F203!D 1F210+1,624B 1F211+1,5B57 1F212+1,53CC
    1F213+1,30C7 1F214+1,4E8C 1F215+1,591A 1F216+1,89E3 1F217+1,5929 1F218+1,4EA4 1F219+1,6620
    1F21A+1,7121 1F21B+1,6599 1F21C+1,524D 1F21D+1,5F8C 1F21E+1,518D 1F21F+1,65B0 1F220+1,521D
    1F221+1,7D42 1F222+1,751F 1F223+1,8CA9 1F224+1,58F0 1F225+1,5439 1F226+1,6F14 1F227+1,6295
    1F228+1,6355 1F229+1,4E00 1F22A+1,4E09 1F22B+1,904A 1F22C+1,5DE6 1F22D+1,4E2D 1F22E+1,53F3
    1F22F+1,6307 1F230+1,8D70 1F231+1,6253 1F232+1,7981 1F233+1,7A7A 1F234+1,5408 1F235+1,6E80
    1F236+1,6709 1F237+1,6708 1F238+1,7533 1F239+1,5272 1F23A+1,55B6 1F23B+1,914D 1F23C!4
    1F240>3014,672C,3015 1F241>3014,4E09,3015 1F242>3014,4E8C,3015 1F243>3014,5B89,3015
    1F244>3014,70B9,3015 1F245>3014,6253,3015 1F246>3014,76D7,3015 1F247>3014,52DD,3015
    1F248>3014,6557,3015 1F249!7 1F250+1,5F97 1F251+1,53EF 1F252!E 1F266!9A 1F6D9!3 1F6ED!3 1F6FD!3
    1F7DA!6 1F7EC!4 1F7F1!F 1F80C!4 1F848!8 1F85A!6 1F888!8 1F8AE!2 1F8BC!4 1F8C2!E 1F8D9!27 1FA58!8
    1FA6E!2 1FA7D!3 1FA8B!3 1FAC7!1 1FAC9!4 1FADD!2 1FAEB!4 1FAF9!7 1FB93!1 1FBF0+A,30 1FBFB!405
    2A6E0!20 2B81E!2 2CEAE!2 2EBE1!F 2EE5E!9A2 2F800+1,4E3D 2F801+1,4E38 2F802+1,4E41 2F803+1,20122
    2F804+1,4F60 2F805+1,4FAE 2F806+1,4FBB 2F807+1,5002 2F808+1,507A 2F809+1,5099 2F80A+1,50E7
    2F80B+1,50CF 2F80C+1,349E 2F80D+1,2063A 2F80E+1,514D 2F80F+1,5154 2F810+1,5164 2F811+1,5177
    2F812+1,2051C 2F813+1,34B9 2F814+1,5167 2F815+1,518D 2F816+1,2054B 2F817+1,5197 2F818+1,51A4
    2F819+1,4ECC 2F81A+1,51AC 2F81B+1,51B5 2F81C+1,291DF 2F81D+1,51F5 2F81E+1,5203 2F81F+1,34DF
    2F820+1,523B 2F821+1,5246 2F822+1,5272 2F823+1,5277 2F824+1,3515 2F825+1,52C7 2F826+1,52C9
    2F827+1,52E4 2F828+1,52FA 2F829+2,5305 2F82B+1,5317 2F82C+1,5349 2F82D+1,5351 2F82E+1,535A
    2F82F+1,5373 2F830*2,537D 2F831+1,537F 2F833+1,537F 2F834+1,20A2C 2F835+1,7070 2F836+1,53CA
    2F837+1,53DF 2F838+1,20B63 2F839+1,53EB 2F83A+1,53F1 2F83B+1,5406 2F83C+1,549E 2F83D+1,5438
    2F83E+1,5448 2F83F+1,5468 2F840+1,54A2 2F841+1,54F6 2F842+1,5510 2F843+1,5553 2F844+1,5563
    2F845=2,5584 2F847+1,5599 2F848+1,55AB 2F849+1,55B3 2F84A+1,55C2 2F84B+1,5716 2F84C+1,5606
    2F84D+1,5717 2F84E+1,5651 2F84F+1,5674 2F850+1,5207 2F851+1,58EE 2F852+1,57CE 2F853+1,57F4
    2F854+1,580D 2F855+1,578B 2F856+1,5832 2F857+1,5831 2F858+1,58AC 2F859+1,214E4 2F85A+1,58F2
    2F85B+1,58F7 2F85C+1,5906 2F85D+1,591A 2F85E+1,5922 2F85F+1,5962 2F860+1,216A8 2F861+1,216EA
    2F862+1,59EC 2F863+1,5A1B 2F864+1,5A27 2F865+1,59D8 2F866+1,5A66 2F867+1,36EE 2F868+1,36FC
    2F869+1,5B08 2F86A=2,5B3E 2F86C+1,219C8 2F86D+1,5BC3 2F86E+1,5BD8 2F86F+1,5BE7 2F870+1,5BF3
    2F871+1,21B18 2F872+1,5BFF 2F873+1,5C06 2F874+1,5F53 2F875+1,5C22 2F876+1,3781 2F877+1,5C60
    2F878+1,5C6E 2F879+1,5CC0 2F87A+1,5C8D 2F87B*2,21DE4 2F87C+1,5D43 2F87E+1,5D6E 2F87F+1,5D6B
    2F880+1,5D7C 2F881+2,5DE1 2F883+1,382F 2F884+1,5DFD 2F885+1,5E28 2F886+1,5E3D 2F887+1,5E69
    2F888+1,3862 2F889+1,22183 2F88A+1,387C 2F88B+1,5EB0 2F88C+1,5EB3 2F88D+1,5EB6 2F88E+1,5ECA
    2F88F+1,2A392 2F890+1,5EFE 2F891=2,22331 2F893+1,8201 2F894=2,5F22 2F896+1,38C7 2F897+1,232B8
    2F898+1,261DA 2F899+1,5F62 2F89A+1,5F6B 2F89B+1,38E3 2F89C+1,5F9A 2F89D+1,5FCD 2F89E+1,5FD7
    2F89F+1,5FF9 2F8A0+1,6081 2F8A1+1,393A 2F8A2+1,391C 2F8A3+1,6094 2F8A4+1,226D4 2F8A5+1,60C7
    2F8A6+1,6148 2F8A7+1,614C 2F8A8+1,614E 2F8A9+1,614C 2F8AA+1,617A 2F8AB+1,618E 2F8AC+1,61B2
    2F8AD+1,61A4 2F8AE+1,61AF 2F8AF+1,61DE 2F8B0+1,61F2 2F8B1+1,61F6 2F8B2+1,6210 2F8B3+1,621B
    2F8B4+1,625D 2F8B5+1,62B1 2F8B6+1,62D4 2F8B7+1,6350 2F8B8+1,22B0C 2F8B9+1,633D 2F8BA+1,62FC
    2F8BB+1,6368 2F8BC+1,6383 2F8BD+1,63E4 2F8BE+1,22BF1 2F8BF+1,6422 2F8C0+1,63C5 2F8C1+1,63A9
    2F8C2+1,3A2E 2F8C3+1,6469 2F8C4+1,647E 2F8C5+1,649D 2F8C6+1,6477 2F8C7+1,3A6C 2F8C8+1,654F
    2F8C9+1,656C 2F8CA+1,2300A 2F8CB+1,65E3 2F8CC+1,66F8 2F8CD+1,6649 2F8CE+1,3B19 2F8CF+1,6691
    2F8D0+1,3B08 2F8D1+1,3AE4 2F8D2+1,5192 2F8D3+1,5195 2F8D4+1,6700 2F8D5+1,669C 2F8D6+1,80AD
    2F8D7+1,43D9 2F8D8+1,6717 2F8D9+1,671B 2F8DA+1,6721 2F8DB+1,675E 2F8DC+1,6753 2F8DD+1,233C3
    2F8DE+1,3B49 2F8DF+1,67FA 2F8E0+1,6785 2F8E1+1,6852 2F8E2+1,6885 2F8E3+1,2346D 2F8E4+1,688E
    2F8E5+1,681F 2F8E6+1,6914 2F8E7+1,3B9D 2F8E8+1,6942 2F8E9+1,69A3 2F8EA+1,69EA 2F8EB+1,6AA8
    2F8EC+1,236A3 2F8ED+1,6ADB 2F8EE+1,3C18 2F8EF+1,6B21 2F8F0+1,238A7 2F8F1+1,6B54 2F8F2+1,3C4E
    2F8F3+1,6B72 2F8F4+1,6B9F 2F8F5+2,6BBA 2F8F7+1,23A8D 2F8F8+1,21D0B 2F8F9+1,23AFA 2F8FA+1,6C4E
    2F8FB+1,23CBC 2F8FC+1,6CBF 2F8FD+1,6CCD 2F8FE+1,6C67 2F8FF+1,6D16 2F900+1,6D3E 2F901+1,6D77
    2F902+1,6D41 2F903+1,6D69 2F904+1,6D78 2F905+1,6D85 2F906+1,23D1E 2F907+1,6D34 2F908+1,6E2F
    2F909+1,6E6E 2F90A+1,3D33 2F90B+1,6ECB 2F90C+1,6EC7 2F90D+1,23ED1 2F90E+1,6DF9 2F90F+1,6F6E
    2F910+1,23F5E 2F911+1,23F8E 2F912+1,6FC6 2F913+1,7039 2F914+1,701E 2F915+1,701B 2F916+1,3D96
    2F917+1,704A 2F918+1,707D 2F919+1,7077 2F91A+1,70AD 2F91B+1,20525 2F91C+1,7145 2F91D+1,24263
    2F91E+1,719C 2F91F+1,243AB 2F920+1,7228 2F921+1,7235 2F922+1,7250 2F923+1,24608 2F924+1,7280
    2F925+1,7295 2F926+1,24735 2F927+1,24814 2F928+1,737A 2F929+1,738B 2F92A+1,3EAC 2F92B+1,73A5
    2F92C=2,3EB8 2F92E+1,7447 2F92F+1,745C 2F930+1,7471 2F931+1,7485 2F932+1,74CA 2F933+1,3F1B
    2F934+1,7524 2F935+1,24C36 2F936+1,753E 2F937+1,24C92 2F938+1,7570 2F939+1,2219F 2F93A+1,7610
    2F93B+1,24FA1 2F93C+1,24FB8 2F93D+1,25044 2F93E+1,3FFC 2F93F+1,4008 2F940+1,76F4 2F941+1,250F3
    2F942+1,250F2 2F943+1,25119 2F944+1,25133 2F945+2,771E 2F947+1,771F 2F948+1,774A 2F949+1,4039
    2F94A+1,778B 2F94B+1,4046 2F94C+1,4096 2F94D+1,2541D 2F94E+1,784E 2F94F+1,788C 2F950+1,78CC
    2F951+1,40E3 2F952+1,25626 2F953+1,7956 2F954+1,2569A 2F955+1,256C5 2F956+1,798F 2F957+1,79EB
    2F958+1,412F 2F959+1,7A40 2F95A+1,7A4A 2F95B+1,7A4F 2F95C+1,2597C 2F95D=2,25AA7 2F95F+1,7AEE
    2F960+1,4202 2F961+1,25BAB 2F962+1,7BC6 2F963+1,7BC9 2F964+1,4227 2F965+1,25C80 2F966+1,7CD2
    2F967+1,42A0 2F968+1,7CE8 2F969+1,7CE3 2F96A+1,7D00 2F96B+1,25F86 2F96C+1,7D63 2F96D+1,4301
    2F96E+1,7DC7 2F96F+1,7E02 2F970+1,7E45 2F971+1,4334 2F972+1,26228 2F973+1,26247 2F974+1,4359
    2F975+1,262D9 2F976+1,7F7A 2F977+1,2633E 2F978+1,7F95 2F979+1,7FFA 2F97A+1,8005 2F97B+1,264DA
    2F97C+1,26523 2F97D+1,8060 2F97E+1,265A8 2F97F+1,8070 2F980+1,2335F 2F981+1,43D5 2F982+1,80B2
    2F983+1,8103 2F984+1,440B 2F985+1,813E 2F986+1,5AB5 2F987+1,267A7 2F988+1,267B5 2F989+1,23393
    2F98A+1,2339C 2F98B+1,8201 2F98C+1,8204 2F98D+1,8F9E 2F98E+1,446B 2F98F+1,8291 2F990+1,828B
    2F991+1,829D 2F992+1,52B3 2F993+1,82B1 2F994+1,82B3 2F995+1,82BD 2F996+1,82E6 2F997+1,26B3C
    2F998+1,82E5 2F999+1,831D 2F99A+1,8363 2F99B+1,83AD 2F99C+1,8323 2F99D+1,83BD 2F99E+1,83E7
    2F99F+1,8457 2F9A0+1,8353 2F9A1+1,83CA 2F9A2+1,83CC 2F9A3+1,83DC 2F9A4+1,26C36 2F9A5+1,26D6B
    2F9A6+1,26CD5 2F9A7+1,452B 2F9A8+1,84F1 2F9A9+1,84F3 2F9AA+1,8516 2F9AB+1,273CA 2F9AC+1,8564
    2F9AD+1,26F2C 2F9AE+1,455D 2F9AF+1,4561 2F9B0+1,26FB1 2F9B1+1,270D2 2F9B2+1,456B 2F9B3+1,8650
    2F9B4+1,865C 2F9B5+1,8667 2F9B6+1,8669 2F9B7+1,86A9 2F9B8+1,8688 2F9B9+1,870E 2F9BA+1,86E2
    2F9BB+1,8779 2F9BC+1,8728 2F9BD+1,876B 2F9BE+1,8786 2F9BF+1,45D7 2F9C0+1,87E1 2F9C1+1,8801
    2F9C2+1,45F9 2F9C3+1,8860 2F9C4+1,8863 2F9C5+1,27667 2F9C6+1,88D7 2F9C7+1,88DE 2F9C8+1,4635
    2F9C9+1,88FA 2F9CA+1,34BB 2F9CB+1,278AE 2F9CC+1,27966 2F9CD+1,46BE 2F9CE+1,46C7 2F9CF+1,8AA0
    2F9D0+1,8AED 2F9D1+1,8B8A 2F9D2+1,8C55 2F9D3+1,27CA8 2F9D4+1,8CAB 2F9D5+1,8CC1 2F9D6+1,8D1B
    2F9D7+1,8D77 2F9D8+1,27F2F 2F9D9+1,20804 2F9DA+1,8DCB 2F9DB+1,8DBC 2F9DC+1,8DF0 2F9DD+1,208DE
    2F9DE+1,8ED4 2F9DF+1,8F38 2F9E0+1,285D2 2F9E1+1,285ED 2F9E2+1,9094 2F9E3+1,90F1 2F9E4+1,9111
    2F9E5+1,2872E 2F9E6+1,911B 2F9E7+1,9238 2F9E8+2,92D7 2F9EA+1,927C 2F9EB+1,93F9 2F9EC+1,9415
    2F9ED+1,28BFA 2F9EE+1,958B 2F9EF+1,4995 2F9F0+1,95B7 2F9F1+1,28D77 2F9F2+1,49E6 2F9F3+1,96C3
    2F9F4+1,5DB2 2F9F5+1,9723 2F9F6+1,29145 2F9F7+1,2921A 2F9F8+1,4A6E 2F9F9+1,4A76 2F9FA+1,97E0
    2F9FB+1,2940A 2F9FC+1,4AB2 2F9FD+1,29496 2F9FE=2,980B 2FA00+1,9829 2FA01+1,295B6 2FA02+1,98E2
    2FA03+1,4B33 2FA04+1,9929 2FA05+1,99A7 2FA06+1,99C2 2FA07+1,99FE 2FA08+1,4BCE 2FA09+1,29B30
    2FA0A+1,9B12 2FA0B+1,9C40 2FA0C+1,9CFD 2FA0D+1,4CCE 2FA0E+1,4CED 2FA0F+1,9D67 2FA10+1,2A0CE
    2FA11+1,4CF8 2FA12+1,2A105 2FA13+1,2A20E 2FA14+1,2A291 2FA15+1,9EBB 2FA16+1,4D56 2FA17+1,9EF9
    2FA18+1,9EFE 2FA19+1,9F05 2FA1A+1,9F0F 2FA1B+1,9F16 2FA1C+1,9F3B 2FA1D+1,2A600 2FA1E!5E2 3134B!5
    3347A!ACC86 E0100~F0 E01F0!2FE10"

/-- The runs of combining marks, with which no label begins. -/
def markRuns : Array (Nat × Nat) :=
  #[(0x300, 0x36F), (0x483, 0x489), (0x591, 0x5BD), (0x5BF, 0x5BF), (0x5C1, 0x5C2),
   (0x5C4, 0x5C5), (0x5C7, 0x5C7), (0x610, 0x61A), (0x64B, 0x65F), (0x670, 0x670),
   (0x6D6, 0x6DC), (0x6DF, 0x6E4), (0x6E7, 0x6E8), (0x6EA, 0x6ED), (0x711, 0x711),
   (0x730, 0x74A), (0x7A6, 0x7B0), (0x7EB, 0x7F3), (0x7FD, 0x7FD), (0x816, 0x819),
   (0x81B, 0x823), (0x825, 0x827), (0x829, 0x82D), (0x859, 0x85B), (0x898, 0x89F),
   (0x8CA, 0x8E1), (0x8E3, 0x903), (0x93A, 0x93C), (0x93E, 0x94F), (0x951, 0x957),
   (0x962, 0x963), (0x981, 0x983), (0x9BC, 0x9BC), (0x9BE, 0x9C4), (0x9C7, 0x9C8),
   (0x9CB, 0x9CD), (0x9D7, 0x9D7), (0x9E2, 0x9E3), (0x9FE, 0x9FE), (0xA01, 0xA03),
   (0xA3C, 0xA3C), (0xA3E, 0xA42), (0xA47, 0xA48), (0xA4B, 0xA4D), (0xA51, 0xA51),
   (0xA70, 0xA71), (0xA75, 0xA75), (0xA81, 0xA83), (0xABC, 0xABC), (0xABE, 0xAC5),
   (0xAC7, 0xAC9), (0xACB, 0xACD), (0xAE2, 0xAE3), (0xAFA, 0xAFF), (0xB01, 0xB03),
   (0xB3C, 0xB3C), (0xB3E, 0xB44), (0xB47, 0xB48), (0xB4B, 0xB4D), (0xB55, 0xB57),
   (0xB62, 0xB63), (0xB82, 0xB82), (0xBBE, 0xBC2), (0xBC6, 0xBC8), (0xBCA, 0xBCD),
   (0xBD7, 0xBD7), (0xC00, 0xC04), (0xC3C, 0xC3C), (0xC3E, 0xC44), (0xC46, 0xC48),
   (0xC4A, 0xC4D), (0xC55, 0xC56), (0xC62, 0xC63), (0xC81, 0xC83), (0xCBC, 0xCBC),
   (0xCBE, 0xCC4), (0xCC6, 0xCC8), (0xCCA, 0xCCD), (0xCD5, 0xCD6), (0xCE2, 0xCE3),
   (0xD00, 0xD03), (0xD3B, 0xD3C), (0xD3E, 0xD44), (0xD46, 0xD48), (0xD4A, 0xD4D),
   (0xD57, 0xD57), (0xD62, 0xD63), (0xD81, 0xD83), (0xDCA, 0xDCA), (0xDCF, 0xDD4),
   (0xDD6, 0xDD6), (0xDD8, 0xDDF), (0xDF2, 0xDF3), (0xE31, 0xE31), (0xE34, 0xE3A),
   (0xE47, 0xE4E), (0xEB1, 0xEB1), (0xEB4, 0xEBC), (0xEC8, 0xECD), (0xF18, 0xF19),
   (0xF35, 0xF35), (0xF37, 0xF37), (0xF39, 0xF39), (0xF3E, 0xF3F), (0xF71, 0xF84),
   (0xF86, 0xF87), (0xF8D, 0xF97), (0xF99, 0xFBC), (0xFC6, 0xFC6), (0x102B, 0x103E),
   (0x1056, 0x1059), (0x105E, 0x1060), (0x1062, 0x1064), (0x1067, 0x106D), (0x1071, 0x1074),
   (0x1082, 0x108D), (0x108F, 0x108F), (0x109A, 0x109D), (0x135D, 0x135F), (0x1712, 0x1715),
   (0x1732, 0x1734), (0x1752, 0x1753), (0x1772, 0x1773), (0x17B4, 0x17D3), (0x17DD, 0x17DD),
   (0x180B, 0x180D), (0x180F, 0x180F), (0x1885, 0x1886), (0x18A9, 0x18A9), (0x1920, 0x192B),
   (0x1930, 0x193B), (0x1A17, 0x1A1B), (0x1A55, 0x1A5E), (0x1A60, 0x1A7C), (0x1A7F, 0x1A7F),
   (0x1AB0, 0x1ACE), (0x1B00, 0x1B04), (0x1B34, 0x1B44), (0x1B6B, 0x1B73), (0x1B80, 0x1B82),
   (0x1BA1, 0x1BAD), (0x1BE6, 0x1BF3), (0x1C24, 0x1C37), (0x1CD0, 0x1CD2), (0x1CD4, 0x1CE8),
   (0x1CED, 0x1CED), (0x1CF4, 0x1CF4), (0x1CF7, 0x1CF9), (0x1DC0, 0x1DFF), (0x20D0, 0x20F0),
   (0x2CEF, 0x2CF1), (0x2D7F, 0x2D7F), (0x2DE0, 0x2DFF), (0x302A, 0x302F), (0x3099, 0x309A),
   (0xA66F, 0xA672), (0xA674, 0xA67D), (0xA69E, 0xA69F), (0xA6F0, 0xA6F1), (0xA802, 0xA802),
   (0xA806, 0xA806), (0xA80B, 0xA80B), (0xA823, 0xA827), (0xA82C, 0xA82C), (0xA880, 0xA881),
   (0xA8B4, 0xA8C5), (0xA8E0, 0xA8F1), (0xA8FF, 0xA8FF), (0xA926, 0xA92D), (0xA947, 0xA953),
   (0xA980, 0xA983), (0xA9B3, 0xA9C0), (0xA9E5, 0xA9E5), (0xAA29, 0xAA36), (0xAA43, 0xAA43),
   (0xAA4C, 0xAA4D), (0xAA7B, 0xAA7D), (0xAAB0, 0xAAB0), (0xAAB2, 0xAAB4), (0xAAB7, 0xAAB8),
   (0xAABE, 0xAABF), (0xAAC1, 0xAAC1), (0xAAEB, 0xAAEF), (0xAAF5, 0xAAF6), (0xABE3, 0xABEA),
   (0xABEC, 0xABED), (0xFB1E, 0xFB1E), (0xFE00, 0xFE0F), (0xFE20, 0xFE2F), (0x101FD, 0x101FD),
   (0x102E0, 0x102E0), (0x10376, 0x1037A), (0x10A01, 0x10A03), (0x10A05, 0x10A06),
   (0x10A0C, 0x10A0F), (0x10A38, 0x10A3A), (0x10A3F, 0x10A3F), (0x10AE5, 0x10AE6),
   (0x10D24, 0x10D27), (0x10EAB, 0x10EAC), (0x10F46, 0x10F50), (0x10F82, 0x10F85),
   (0x11000, 0x11002), (0x11038, 0x11046), (0x11070, 0x11070), (0x11073, 0x11074),
   (0x1107F, 0x11082), (0x110B0, 0x110BA), (0x110C2, 0x110C2), (0x11100, 0x11102),
   (0x11127, 0x11134), (0x11145, 0x11146), (0x11173, 0x11173), (0x11180, 0x11182),
   (0x111B3, 0x111C0), (0x111C9, 0x111CC), (0x111CE, 0x111CF), (0x1122C, 0x11237),
   (0x1123E, 0x1123E), (0x112DF, 0x112EA), (0x11300, 0x11303), (0x1133B, 0x1133C),
   (0x1133E, 0x11344), (0x11347, 0x11348), (0x1134B, 0x1134D), (0x11357, 0x11357),
   (0x11362, 0x11363), (0x11366, 0x1136C), (0x11370, 0x11374), (0x11435, 0x11446),
   (0x1145E, 0x1145E), (0x114B0, 0x114C3), (0x115AF, 0x115B5), (0x115B8, 0x115C0),
   (0x115DC, 0x115DD), (0x11630, 0x11640), (0x116AB, 0x116B7), (0x1171D, 0x1172B),
   (0x1182C, 0x1183A), (0x11930, 0x11935), (0x11937, 0x11938), (0x1193B, 0x1193E),
   (0x11940, 0x11940), (0x11942, 0x11943), (0x119D1, 0x119D7), (0x119DA, 0x119E0),
   (0x119E4, 0x119E4), (0x11A01, 0x11A0A), (0x11A33, 0x11A39), (0x11A3B, 0x11A3E),
   (0x11A47, 0x11A47), (0x11A51, 0x11A5B), (0x11A8A, 0x11A99), (0x11C2F, 0x11C36),
   (0x11C38, 0x11C3F), (0x11C92, 0x11CA7), (0x11CA9, 0x11CB6), (0x11D31, 0x11D36),
   (0x11D3A, 0x11D3A), (0x11D3C, 0x11D3D), (0x11D3F, 0x11D45), (0x11D47, 0x11D47),
   (0x11D8A, 0x11D8E), (0x11D90, 0x11D91), (0x11D93, 0x11D97), (0x11EF3, 0x11EF6),
   (0x16AF0, 0x16AF4), (0x16B30, 0x16B36), (0x16F4F, 0x16F4F), (0x16F51, 0x16F87),
   (0x16F8F, 0x16F92), (0x16FE4, 0x16FE4), (0x16FF0, 0x16FF1), (0x1BC9D, 0x1BC9E),
   (0x1CF00, 0x1CF2D), (0x1CF30, 0x1CF46), (0x1D165, 0x1D169), (0x1D16D, 0x1D172),
   (0x1D17B, 0x1D182), (0x1D185, 0x1D18B), (0x1D1AA, 0x1D1AD), (0x1D242, 0x1D244),
   (0x1DA00, 0x1DA36), (0x1DA3B, 0x1DA6C), (0x1DA75, 0x1DA75), (0x1DA84, 0x1DA84),
   (0x1DA9B, 0x1DA9F), (0x1DAA1, 0x1DAAF), (0x1E000, 0x1E006), (0x1E008, 0x1E018),
   (0x1E01B, 0x1E021), (0x1E023, 0x1E024), (0x1E026, 0x1E02A), (0x1E130, 0x1E136),
   (0x1E2AE, 0x1E2AE), (0x1E2EC, 0x1E2EF), (0x1E8D0, 0x1E8D6), (0x1E944, 0x1E94A),
   (0xE0100, 0xE01EF)]

/-- The signs that suppress the vowel of a letter; a joiner may follow one. -/
def viramas : Array Nat :=
  #[0x94D, 0x9CD, 0xA4D, 0xACD, 0xB4D, 0xBCD, 0xC4D, 0xCCD, 0xD3B, 0xD3C, 0xD4D, 0xDCA, 0xE3A,
   0xEBA, 0xF84, 0x1039, 0x103A, 0x1714, 0x1715, 0x1734, 0x17D2, 0x1A60, 0x1B44, 0x1BAA, 0x1BAB,
   0x1BF2, 0x1BF3, 0x2D7F, 0xA806, 0xA82C, 0xA8C4, 0xA953, 0xA9C0, 0xAAF6, 0xABED, 0x10A3F,
   0x11046, 0x11070, 0x1107F, 0x110B9, 0x11133, 0x11134, 0x111C0, 0x11235, 0x112EA, 0x1134D,
   0x11442, 0x114C2, 0x115BF, 0x1163F, 0x116B6, 0x1172B, 0x11839, 0x1193D, 0x1193E, 0x119E0,
   0x11A34, 0x11A47, 0x11A99, 0x11C3F, 0x11D44, 0x11D45, 0x11D97]

end SignOn.Net.Idna
