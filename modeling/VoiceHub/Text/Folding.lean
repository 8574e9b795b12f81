import VoiceHub.Text.Table

/-!
Characters that are one in names.

A letter folds to its small form, a letter of another width, style or shape to
the plain one, and a character that is not seen to nothing.  The dot of vertical
writing, and what would fold to more than a dot with a dot in it, fold to the
replacement character, which no name can have.
-/

namespace VoiceHub.Text

/-- The characters beyond ASCII that do not fold to themselves. -/
def foldings : Table := .parse "
  a0=20 a8=20.308 aa=61 ad= af=20.304 b2+2=32 b4=20.301,3bc b8=20.327,31,6f bc=31.2044.34,31.2044.32
  be=33.2044.34 c0+17=e0 d8+7=f8 100*18=101 130=69.307 132~2=69.6a 134*2=135 139*3=13a 13f~2=6c.b7
  141*4=142 149=2bc.6e 14a*17=14b 178=ff 179*3=17a 17f=73 181=253 182*2=183 186=254,188 189+2=256
  18b=18c 18e=1dd,259,25b,192 193=260,263 196=269,268,199 19c=26f,272 19f=275 1a0*3=1a1 1a6=280,1a8
  1a9=283 1ac=1ad 1ae=288,1b0 1b1+2=28a 1b3*2=1b4 1b7=292,1b9 1bc=1bd 1c4~3=64.17e 1c7~3=6c.6a
  1ca~3=6e.6a 1cd*8=1ce 1de*9=1df 1f1~3=64.7a 1f4=1f5 1f6=195,1bf 1f8*14=1f9 220=19e 222*9=223
  23a=2c65,23c 23d=19a,2c66 241=242 243=180,289,28c 246*5=247 2b0*2=68 2b1=266 2b3=72,279,27b,281,77
  2b8=79 2d8=20.306,20.307,20.30a,20.328,20.303,20.30b 2e0=263,6c,73,78,295 340+2=300 343=313
  344=308.301,3b9 34f= 370*2=371 374=2b9 376=377 37a=20.3b9 37e=3b,3f3 384=20.301,20.308.301,3ac,b7
  388+3=3ad 38c=3cc 38e+2=3cd 391+11=3b1 3a3+9=3c3 3cf=3d7,3b2,3b8,3c5,3cd,3cb,3c6,3c0 3d8*c=3d9
  3f0=3ba,3c1,3c3 3f4=3b8,3b5 3f7=3f8 3f9=3c3,3fb 3fd+3=37b 400+10=450 410+20=430 460*11=461
  48a*1b=48b 4c0=4cf 4c1*7=4c2 4d0*30=4d1 531+26=561 587=565.582 61c= 675=627.674,648.674,6c7.674
  678=64a.674 958=915.93c,916.93c,917.93c,91c.93c,921.93c,922.93c,92b.93c 95f=92f.93c 9dc=9a1.9bc
  9dd=9a2.9bc 9df=9af.9bc a33=a32.a3c a36=a38.a3c a59=a16.a3c,a17.a3c,a1c.a3c a5e=a2b.a3c
  b5c=b21.b3c,b22.b3c e33=e4d.e32 eb3=ecd.eb2 edc=eab.e99,eab.ea1 f0c=f0b f43=f42.fb7 f4d=f4c.fb7
  f52=f51.fb7 f57=f56.fb7 f5c=f5b.fb7 f69=f40.fb5 f73=f71.f72 f75=f71.f74,fb2.f80,fb2.f71.f80
  f78=fb3.f80,fb3.f71.f80 f81=f71.f80 f93=f92.fb7 f9d=f9c.fb7 fa2=fa1.fb7 fa7=fa6.fb7 fac=fab.fb7
  fb9=f90.fb5 10a0+26=2d00 10c7=2d27 10cd=2d2d 10fc=10dc 115f~2= 13f8+6=13f0 17b4~2= 180b~5=
  1c80=432,434,43e 1c83+2=441 1c85=442,44a,463,a64b,1c8a 1c90+2b=10d0 1cbd+3=10fd 1d2c=61,e6
  1d2e*2=62 1d31*5=65 1d32=1dd 1d34*4=68 1d3c=6f,223,70,72 1d40+2=74 1d42=77,61 1d44+2=250 1d46=1d02
  1d47=62 1d48+2=64 1d4a=259 1d4b+2=25b 1d4d=67 1d4f=6b 1d50*2=6d 1d51=14b 1d53=254 1d54+2=1d16
  1d56=70 1d57+2=74 1d59=1d1d,26f,76,1d25 1d5d+3=3b2 1d60+2=3c6 1d62=69,72 1d64+2=75 1d66+2=3b2
  1d68=3c1 1d69+2=3c6 1d78=43d 1d9b=252,63,255,f0,25c,66,25f,261,265 1da4+3=268 1da7=1d7b,29d,26d
  1daa=1d85,29f,271,270 1dae+4=272 1db2=278 1db3+2=282 1db5=1ab 1db6+2=289 1db8=1d1c 1db9+2=28b
  1dbb=7a 1dbc+3=290 1dbf=3b8 1e00*4b=1e01 1e9a=61.2be,1e61 1e9e=df 1ea0*30=1ea1 1f08+8=1f00
  1f18+6=1f10 1f28+8=1f20 1f38+8=1f30 1f48+6=1f40 1f59*4=1f51 1f68+8=1f60 1f71=3ac 1f73=3ad 1f75=3ae
  1f77=3af 1f79=3cc 1f7b=3cd 1f7d=3ce 1f80=1f00.3b9,1f01.3b9,1f02.3b9,1f03.3b9,1f04.3b9,1f05.3b9
  1f86=1f06.3b9,1f07.3b9,1f00.3b9,1f01.3b9,1f02.3b9,1f03.3b9,1f04.3b9,1f05.3b9,1f06.3b9,1f07.3b9
  1f90=1f20.3b9,1f21.3b9,1f22.3b9,1f23.3b9,1f24.3b9,1f25.3b9,1f26.3b9,1f27.3b9,1f20.3b9,1f21.3b9
  1f9a=1f22.3b9,1f23.3b9,1f24.3b9,1f25.3b9,1f26.3b9,1f27.3b9,1f60.3b9,1f61.3b9,1f62.3b9,1f63.3b9
  1fa4=1f64.3b9,1f65.3b9,1f66.3b9,1f67.3b9,1f60.3b9,1f61.3b9,1f62.3b9,1f63.3b9,1f64.3b9,1f65.3b9
  1fae=1f66.3b9,1f67.3b9 1fb2=1f70.3b9,3b1.3b9,3ac.3b9 1fb7=1fb6.3b9 1fb8+2=1fb0 1fba=1f70,3ac
  1fbc=3b1.3b9,20.313,3b9,20.313,20.342,20.308.342,1f74.3b9,3b7.3b9,3ae.3b9 1fc7=1fc6.3b9
  1fc8*2=1f72 1fc9=3ad 1fcb=3ae,3b7.3b9,20.313.300,20.313.301,20.313.342 1fd3=390 1fd8+2=1fd0
  1fda=1f76,3af 1fdd=20.314.300,20.314.301,20.314.342 1fe3=3b0 1fe8+2=1fe0 1fea=1f7a,3cd,1fe5
  1fed=20.308.300,20.308.301,60 1ff2=1f7c.3b9,3c9.3b9,3ce.3b9 1ff7=1ff6.3b9,1f78 1ff9*2=3cc
  1ffa=1f7c 1ffc=3c9.3b9,20.301,20.314 2000~b=20 200b= 200e~2= 2011=2010 2017=20.333 2024~3=fffd
  202a~5= 202f=20 2033=2032.2032,2032.2032.2032 2036=2035.2035,2035.2035.2035 203c=21.21 203e=20.305
  2047=3f.3f,3f.21,21.3f 2057=2032.2032.2032.2032 205f=20 2060~5= 2066~a= 2070=30,69 2074+6=34
  207a=2b,2212,3d 207d+2=28 207f=6e 2080+a=30 208a=2b,2212,3d 208d+2=28 2090=61,65,6f,78,259,68
  2096+4=6b 209a=70 209b+2=73 20a8=72.73 2100=61.2f.63,61.2f.73,63,b0.63 2105=63.2f.6f,63.2f.75,25b
  2109=b0.66 210a+2=67 210c~3=68 210f=127 2110~2=69 2112~2=6c 2115=6e,6e.6f 2119+3=70 211c~2=72
  2120=73.6d,74.65.6c,74.6d 2124=7a 2126=3c9 2128=7a 212a=6b,e5 212c+2=62 212f~2=65 2131=66,214e,6d
  2134=6f 2135+4=5d0 2139=69 213b=66.61.78,3c0 213d~2=3b3 213f=3c0,2211 2145~2=64 2147=65 2148+2=69
  2150=31.2044.37,31.2044.39,31.2044.31.30,31.2044.33,32.2044.33,31.2044.35,32.2044.35,33.2044.35
  2158=34.2044.35,31.2044.36,35.2044.36,31.2044.38,33.2044.38,35.2044.38,37.2044.38,31.2044,69,69.69
  2162=69.69.69,69.76,76,76.69,76.69.69,76.69.69.69,69.78,78,78.69,78.69.69,6c 216d+2=63 216f=6d,69
  2171=69.69,69.69.69,69.76,76,76.69,76.69.69,76.69.69.69,69.78,78,78.69,78.69.69,6c 217d+2=63
  217f=6d 2183=2184 2189=30.2044.33 222c=222b.222b,222b.222b.222b 222f=222e.222e,222e.222e.222e
  2329+2=3008 2460+9=31 2469=31.30,31.31,31.32,31.33,31.34,31.35,31.36,31.37,31.38,31.39,32.30
  2474=28.31.29,28.32.29,28.33.29,28.34.29,28.35.29,28.36.29,28.37.29,28.38.29,28.39.29,28.31.30.29
  247e=28.31.31.29,28.31.32.29,28.31.33.29,28.31.34.29,28.31.35.29,28.31.36.29,28.31.37.29
  2485=28.31.38.29,28.31.39.29,28.32.30.29 2488~14=fffd 249c=28.61.29,28.62.29,28.63.29,28.64.29
  24a0=28.65.29,28.66.29,28.67.29,28.68.29,28.69.29,28.6a.29,28.6b.29,28.6c.29,28.6d.29,28.6e.29
  24aa=28.6f.29,28.70.29,28.71.29,28.72.29,28.73.29,28.74.29,28.75.29,28.76.29,28.77.29,28.78.29
  24b4=28.79.29,28.7a.29 24b6+1a=61 24d0+1a=61 24ea=30 2a0c=222b.222b.222b.222b 2a74=3a.3a.3d,3d.3d
  2a76=3d.3d.3d 2adc=2add.338 2c00+30=2c30 2c60=2c61 2c62=26b,1d7d,27d 2c67*3=2c68 2c6d=251,271,250
  2c70=252 2c72=2c73 2c75=2c76 2c7c=6a,76 2c7e+2=23f 2c80*32=2c81 2ceb*2=2cec 2cf2=2cf3 2d6f=2d61
  2e9f=6bcd 2ef3=9f9f 2f00=4e00,4e28,4e36,4e3f,4e59,4e85,4e8c,4ea0,4eba,513f,5165,516b,5182,5196
  2f0e=51ab,51e0,51f5,5200,529b,52f9,5315,531a,5338,5341,535c,5369,5382,53b6,53c8,53e3,56d7,571f
  2f20=58eb,5902,590a,5915,5927,5973,5b50,5b80,5bf8,5c0f,5c22,5c38,5c6e,5c71,5ddb,5de5,5df1,5dfe
  2f32=5e72,5e7a,5e7f,5ef4,5efe,5f0b,5f13,5f50,5f61,5f73,5fc3,6208,6236,624b,652f,6534,6587,6597
  2f44=65a4,65b9,65e0,65e5,66f0,6708,6728,6b20,6b62,6b79,6bb3,6bcb,6bd4,6bdb,6c0f,6c14,6c34,706b
  2f56=722a,7236,723b,723f,7247,7259,725b,72ac,7384,7389,74dc,74e6,7518,751f,7528,7530,758b,7592
  2f68=7676,767d,76ae,76bf,76ee,77db,77e2,77f3,793a,79b8,79be,7a74,7acb,7af9,7c73,7cf8,7f36,7f51
  2f7a=7f8a,7fbd,8001,800c,8012,8033,807f,8089,81e3,81ea,81f3,81fc,820c,821b,821f,826e,8272,8278
  2f8c=864d,866b,8840,884c,8863,897e,898b,89d2,8a00,8c37,8c46,8c55,8c78,8c9d,8d64,8d70,8db3,8eab
  2f9e=8eca,8f9b,8fb0,8fb5,9091,9149,91c6,91cc,91d1,9577,9580,961c,96b6,96b9,96e8,9751,975e,9762
  2fb0=9769,97cb,97ed,97f3,9801,98a8,98db,98df,9996,9999,99ac,9aa8,9ad8,9adf,9b25,9b2f,9b32,9b3c
  2fc2=9b5a,9ce5,9e75,9e7f,9ea5,9ebb,9ec3,9ecd,9ed1,9ef9,9efd,9f0e,9f13,9f20,9f3b,9f4a,9f52,9f8d
  2fd4=9f9c,9fa0 3000=20 3002=2e 3036=3012 3038=5341 3039+2=5344 309b=20.3099,20.309a 309f=3088.308a
  30ff=30b3.30c8 3131+2=1100 3133*2=11aa 3134=1102 3136=11ad 3137+3=1103 313a+6=11b0 3140=111a
  3141+3=1106 3144=1121 3145+a=1109 314f+15=1161 3164= 3165+2=1114 3167+2=11c7 3169=11cc,11ce,11d3
  316c=11d7,11d9,111c,11dd,11df 3171+2=111d 3173=1120 3174+2=1122 3176=1127,1129 3178+5=112b
  317d=1132,1136,1140,1147,114c 3182+2=11f1 3184+3=1157 3187+2=1184 3189=1188 318a+2=1191 318c=1194
  318d=119e,11a1 3192=4e00,4e8c,4e09,56db,4e0a,4e2d,4e0b,7532,4e59,4e19,4e01,5929,5730,4eba
  3200=28.1100.29,28.1102.29,28.1103.29,28.1105.29,28.1106.29,28.1107.29,28.1109.29,28.110b.29
  3208=28.110c.29,28.110e.29,28.110f.29,28.1110.29,28.1111.29,28.1112.29,28.ac00.29,28.b098.29
  3210=28.b2e4.29,28.b77c.29,28.b9c8.29,28.bc14.29,28.c0ac.29,28.c544.29,28.c790.29,28.cc28.29
  3218=28.ce74.29,28.d0c0.29,28.d30c.29,28.d558.29,28.c8fc.29,28.c624.c804.29,28.c624.d6c4.29
  3220=28.4e00.29,28.4e8c.29,28.4e09.29,28.56db.29,28.4e94.29,28.516d.29,28.4e03.29,28.516b.29
  3228=28.4e5d.29,28.5341.29,28.6708.29,28.706b.29,28.6c34.29,28.6728.29,28.91d1.29,28.571f.29
  3230=28.65e5.29,28.682a.29,28.6709.29,28.793e.29,28.540d.29,28.7279.29,28.8ca1.29,28.795d.29
  3238=28.52b4.29,28.4ee3.29,28.547c.29,28.5b66.29,28.76e3.29,28.4f01.29,28.8cc7.29,28.5354.29
  3240=28.796d.29,28.4f11.29,28.81ea.29,28.81f3.29,554f,5e7c,6587,7b8f 3250=70.74.65,32.31,32.32
  3253=32.33,32.34,32.35,32.36,32.37,32.38,32.39,33.30,33.31,33.32,33.33,33.34,33.35,1100
  3261+2=1102 3263+3=1105 3266=1109 3267+2=110b 3269+5=110e 326e=ac00,b098,b2e4,b77c,b9c8,bc14,c0ac
  3275=c544,c790,cc28,ce74,d0c0,d30c,d558,cc38.ace0,c8fc.c758,c6b0 3280=4e00,4e8c,4e09,56db,4e94
  3285=516d,4e03,516b,4e5d,5341,6708,706b,6c34,6728,91d1,571f,65e5,682a,6709,793e,540d,7279,8ca1
  3297=795d,52b4,79d8,7537,5973,9069,512a,5370,6ce8,9805,4f11,5199,6b63,4e0a,4e2d,4e0b,5de6,53f3
  32a9=533b,5b97,5b66,76e3,4f01,8cc7,5354,591c,33.36,33.37,33.38,33.39,34.30,34.31,34.32,34.33,34.34
  32ba=34.35,34.36,34.37,34.38,34.39,35.30,31.6708,32.6708,33.6708,34.6708,35.6708,36.6708,37.6708
  32c7=38.6708,39.6708,31.30.6708,31.31.6708,31.32.6708,68.67,65.72.67,65.76,6c.74.64,30a2,30a4,30a6
  32d3=30a8 32d4+2=30aa 32d6=30ad,30af,30b1,30b3,30b5,30b7,30b9,30bb,30bd,30bf,30c1,30c4,30c6,30c8
  32e4+6=30ca 32ea=30d2,30d5,30d8,30db 32ee+5=30de 32f3=30e4,30e6 32f5+6=30e8 32fb+4=30ef
  32ff=4ee4.548c,30a2.30d1.30fc.30c8,30a2.30eb.30d5.30a1,30a2.30f3.30da.30a2,30a2.30fc.30eb
  3304=30a4.30cb.30f3.30b0,30a4.30f3.30c1,30a6.30a9.30f3,30a8.30b9.30af.30fc.30c9
  3308=30a8.30fc.30ab.30fc,30aa.30f3.30b9,30aa.30fc.30e0,30ab.30a4.30ea,30ab.30e9.30c3.30c8
  330d=30ab.30ed.30ea.30fc,30ac.30ed.30f3,30ac.30f3.30de,30ae.30ac,30ae.30cb.30fc
  3312=30ad.30e5.30ea.30fc,30ae.30eb.30c0.30fc,30ad.30ed,30ad.30ed.30b0.30e9.30e0
  3316=30ad.30ed.30e1.30fc.30c8.30eb,30ad.30ed.30ef.30c3.30c8,30b0.30e9.30e0
  3319=30b0.30e9.30e0.30c8.30f3,30af.30eb.30bc.30a4.30ed,30af.30ed.30fc.30cd,30b1.30fc.30b9
  331d=30b3.30eb.30ca,30b3.30fc.30dd,30b5.30a4.30af.30eb,30b5.30f3.30c1.30fc.30e0
  3321=30b7.30ea.30f3.30b0,30bb.30f3.30c1,30bb.30f3.30c8,30c0.30fc.30b9,30c7.30b7,30c9.30eb
  3327=30c8.30f3,30ca.30ce,30ce.30c3.30c8,30cf.30a4.30c4,30d1.30fc.30bb.30f3.30c8,30d1.30fc.30c4
  332d=30d0.30fc.30ec.30eb,30d4.30a2.30b9.30c8.30eb,30d4.30af.30eb,30d4.30b3,30d3.30eb
  3332=30d5.30a1.30e9.30c3.30c9,30d5.30a3.30fc.30c8,30d6.30c3.30b7.30a7.30eb,30d5.30e9.30f3
  3336=30d8.30af.30bf.30fc.30eb,30da.30bd,30da.30cb.30d2,30d8.30eb.30c4,30da.30f3.30b9
  333b=30da.30fc.30b8,30d9.30fc.30bf,30dd.30a4.30f3.30c8,30dc.30eb.30c8,30db.30f3,30dd.30f3.30c9
  3341=30db.30fc.30eb,30db.30fc.30f3,30de.30a4.30af.30ed,30de.30a4.30eb,30de.30c3.30cf
  3346=30de.30eb.30af,30de.30f3.30b7.30e7.30f3,30df.30af.30ed.30f3,30df.30ea
  334a=30df.30ea.30d0.30fc.30eb,30e1.30ac,30e1.30ac.30c8.30f3,30e1.30fc.30c8.30eb,30e4.30fc.30c9
  334f=30e4.30fc.30eb,30e6.30a2.30f3,30ea.30c3.30c8.30eb,30ea.30e9,30eb.30d4.30fc
  3354=30eb.30fc.30d6.30eb,30ec.30e0,30ec.30f3.30c8.30b2.30f3,30ef.30c3.30c8,30.70b9,31.70b9,32.70b9
  335b=33.70b9,34.70b9,35.70b9,36.70b9,37.70b9,38.70b9,39.70b9,31.30.70b9,31.31.70b9,31.32.70b9
  3365=31.33.70b9,31.34.70b9,31.35.70b9,31.36.70b9,31.37.70b9,31.38.70b9,31.39.70b9,32.30.70b9
  336d=32.31.70b9,32.32.70b9,32.33.70b9,32.34.70b9,68.70.61,64.61,61.75,62.61.72,6f.76,70.63,64.6d
  3378=64.6d.32,64.6d.33,69.75,5e73.6210,662d.548c,5927.6b63,660e.6cbb,682a.5f0f.4f1a.793e,70.61
  3381=6e.61,3bc.61,6d.61,6b.61,6b.62,6d.62,67.62,63.61.6c,6b.63.61.6c,70.66,6e.66,3bc.66,3bc.67
  338e=6d.67,6b.67,68.7a,6b.68.7a,6d.68.7a,67.68.7a,74.68.7a,3bc.6c,6d.6c,64.6c,6b.6c,66.6d,6e.6d
  339b=3bc.6d,6d.6d,63.6d,6b.6d,6d.6d.32,63.6d.32,6d.32,6b.6d.32,6d.6d.33,63.6d.33,6d.33,6b.6d.33
  33a7=6d.2215.73,6d.2215.73.32,70.61,6b.70.61,6d.70.61,67.70.61,72.61.64,72.61.64.2215.73
  33af=72.61.64.2215.73.32,70.73,6e.73,3bc.73,6d.73,70.76,6e.76,3bc.76,6d.76,6b.76,6d.76,70.77,6e.77
  33bc=3bc.77,6d.77,6b.77,6d.77,6b.3c9,6d.3c9,fffd,62.71,63.63,63.64,63.2215.6b.67,fffd,64.62,67.79
  33ca=68.61,68.70,69.6e,6b.6b,6b.6d,6b.74,6c.6d,6c.6e,6c.6f.67,6c.78,6d.62,6d.69.6c,6d.6f.6c,70.68
  33d8=fffd,70.70.6d,70.72,73.72,73.76,77.62,76.2215.6d,61.2215.6d,31.65e5,32.65e5,33.65e5,34.65e5
  33e4=35.65e5,36.65e5,37.65e5,38.65e5,39.65e5,31.30.65e5,31.31.65e5,31.32.65e5,31.33.65e5
  33ed=31.34.65e5,31.35.65e5,31.36.65e5,31.37.65e5,31.38.65e5,31.39.65e5,32.30.65e5,32.31.65e5
  33f5=32.32.65e5,32.33.65e5,32.34.65e5,32.35.65e5,32.36.65e5,32.37.65e5,32.38.65e5,32.39.65e5
  33fd=33.30.65e5,33.31.65e5,67.61.6c a640*17=a641 a680*e=a681 a69c=44a,44c a722*7=a723 a732*1f=a733
  a770=a76f a779*2=a77a a77d=1d79 a77e*5=a77f a78b=a78c a78d=265 a790*2=a791 a796*a=a797 a7aa=266
  a7ab=25c,261,26c,26a a7b0=29e,287,29d,ab53 a7b4*8=a7b5 a7c4=a794,282,1d8e a7c7*2=a7c8 a7cb=264
  a7cc*8=a7cd a7dc=19b a7f1=73,63,66,71,a7f6 a7f8=127,153 ab5c=a727,ab37,26b,ab52 ab69=28d
  ab70+50=13a0 f900=8c48,66f4,8eca,8cc8,6ed1,4e32,53e5 f907~2=9f9c f909=5951,91d1,5587,5948,61f6
  f90e=7669,7f85,863f,87ba,88f8,908f,6a02,6d1b,70d9,73de,843d,916a,99f1,4e82,5375,6b04,721b,862d
  f920=9e1e,5d50,6feb,85cd,8964,62c9,81d8,881f,5eca,6717,6d6a,72fc,90ce,4f86,51b7,52de,64c4,6ad3
  f932=7210,76e7,8001,8606,865c,8def,9732,9b6f,9dfa,788c,797f,7da0,83c9,9304,9e7f,8ad6,58df,5f04
  f944=7c60,807e,7262,78ca,8cc2,96f7,58d8,5c62,6a13,6dda,6f0f,7d2f,7e37,964b,52d2,808b,51dc,51cc
  f956=7a1c,7dbe,83f1,9675,8b80,62cf,6a02,8afe,4e39,5be7,6012,7387,7570,5317,78fb,4fbf,5fa9,4e0d
  f968=6ccc,6578,7d22,53c3,585e,7701,8449,8aaa,6bba,8fb0,6c88,62fe,82e5,63a0,7565,4eae,5169,51c9
  f97a=6881,7ce7,826f,8ad2,91cf,52f5,5442,5973,5eec,65c5,6ffe,792a,95ad,9a6a,9e97,9ece,529b,66c6
  f98c=6b77,8f62,5e74,6190,6200,649a,6f23,7149,7489,79ca,7df4,806f,8f26,84ee,9023,934a,5217,52a3
  f99e=54bd,70c8,88c2,8aaa,5ec9,5ff5,637b,6bae,7c3e,7375,4ee4,56f9,5be7,5dba,601c,73b2,7469,7f9a
  f9b0=8046,9234,96f6,9748,9818,4f8b,79ae,91b4,96b8,60e1,4e86,50da,5bee,5c3f,6599,6a02,71ce,7642
  f9c2=84fc,907c,9f8d,6688,962e,5289,677b,67f3,6d41,6e9c,7409,7559,786b,7d10,985e,516d,622e,9678
  f9d4=502b,5d19,6dea,8f2a,5f8b,6144,6817,7387,9686,5229,540f,5c65,6613,674e,68a8,6ce5,7406,75e2
  f9e6=7f79,88cf,88e1,91cc,96e2,533f,6eba,541d,71d0,7498,85fa,96a3,9c57,9e9f,6797,6dcb,81e8,7acb
  f9f8=7b20,7c92,72c0,7099,8b58,4ec0,8336,523a,5207,5ea6,62d3,7cd6,5b85,6d1e,66b4,8f3b,884c,964d
  fa0a=898b,5ed3,5140,55c0 fa10=585a fa12=6674 fa15=51de,732a,76ca,793c,795e,7965,798f,9756,7cbe
  fa1e=7fbd fa20=8612 fa22=8af8 fa25=9038,90fd fa2a=98ef,98fc,9928,9db4,90de,96b7,4fae,50e7,514d
  fa33=52c9,52e4,5351,559d,5606,5668,5840,58a8,5c64,5c6e,6094,6168,618e,61f2,654f,65e2,6691,6885
  fa45=6d77,6e1a,6f22,716e,722b,7422,7891,793e,7949,7948,7950,7956,795d fa52+2=798d fa54=7a40,7a81
  fa56=7bc0,7df4,7e09,7e41,7f72,8005,81ed fa5d~2=8279 fa5f=8457,8910,8996,8b01,8b39,8cd3,8d08,8fb6
  fa67=9038,96e3,97ff,983b,6075,242ee,8218 fa70=4e26,51b5,5168,4f80,5145,5180,52c7,52fa,559d,5555
  fa7a=5599,55e2,585a,58b3,5944,5954,5a62,5b28,5ed2,5ed9,5f69,5fad,60d8,614e,6108,618e,6160,61f2
  fa8c=6234,63c4,641c,6452,6556,6674,6717,671b,6756,6b79,6bba,6d41,6edb,6ecb,6f22,701e,716e,77a7
  fa9e=7235,72af,732a,7471,7506,753b,761d,761f,76ca,76db,76f4,774a,7740,78cc,7ab1,7bc0,7c7b,7d5b
  fab0=7df4,7f3e,8005,8352,83ef,8779,8941,8986,8996,8abf,8af8,8acb,8b01,8afe,8aed,8b39,8b8a,8d08
  fac2=8f38,9072,9199,9276,967c,96e3,9756,97db,97ff,980b,983b,9b12,9f9c,2284a,22844,233d5,3b9d,4018
  fad4=4039,25249,25cd0,27ed3,9f43,9f8e fb00=66.66,66.69,66.6c,66.66.69,66.66.6c fb05~2=73.74
  fb13=574.576,574.565,574.56b,57e.576,574.56d fb1d=5d9.5b4 fb1f=5f2.5b7,5e2,5d0 fb22+2=5d3
  fb24+3=5db fb27=5e8,5ea,2b,5e9.5c1,5e9.5c2,5e9.5bc.5c1,5e9.5bc.5c2,5d0.5b7,5d0.5b8,5d0.5bc,5d1.5bc
  fb32=5d2.5bc,5d3.5bc,5d4.5bc,5d5.5bc,5d6.5bc fb38=5d8.5bc,5d9.5bc,5da.5bc,5db.5bc,5dc.5bc
  fb3e=5de.5bc fb40=5e0.5bc,5e1.5bc fb43=5e3.5bc,5e4.5bc fb46=5e6.5bc,5e7.5bc,5e8.5bc,5e9.5bc
  fb4a=5ea.5bc,5d5.5b9,5d1.5bf,5db.5bf,5e4.5bf,5d0.5dc fb50~2=671 fb52~4=67b fb56~4=67e fb5a~4=680
  fb5e~4=67a fb62~4=67f fb66~4=679 fb6a~4=6a4 fb6e~4=6a6 fb72~4=684 fb76~4=683 fb7a~4=686 fb7e~4=687
  fb82~2=68d fb84*2=68c fb85*2=68c fb88~2=688 fb8a~2=698 fb8c~2=691 fb8e~4=6a9 fb92~4=6af fb96~4=6b3
  fb9a~4=6b1 fb9e~2=6ba fba0~4=6bb fba4~2=6c0 fba6~4=6c1 fbaa~4=6be fbae~2=6d2 fbb0~2=6d3 fbd3~4=6ad
  fbd7~2=6c7 fbd9*2=6c6 fbda*2=6c6 fbdd=6c7.674 fbde~2=6cb fbe0~2=6c5 fbe2~2=6c9 fbe4~4=6d0
  fbe8~2=649 fbea~2=626.627 fbec~2=626.6d5 fbee~2=626.648 fbf0~2=626.6c7 fbf2~2=626.6c6
  fbf4~2=626.6c8 fbf6~3=626.6d0 fbf9~3=626.649 fbfc~4=6cc fc00=626.62c,626.62d,626.645,626.649
  fc04=626.64a,628.62c,628.62d,628.62e,628.645,628.649,628.64a,62a.62c,62a.62d,62a.62e,62a.645
  fc0f=62a.649,62a.64a,62b.62c,62b.645,62b.649,62b.64a,62c.62d,62c.645,62d.62c,62d.645,62e.62c
  fc1a=62e.62d,62e.645,633.62c,633.62d,633.62e,633.645,635.62d,635.645,636.62c,636.62d,636.62e
  fc25=636.645,637.62d,637.645,638.645,639.62c,639.645,63a.62c,63a.645,641.62c,641.62d,641.62e
  fc30=641.645,641.649,641.64a,642.62d,642.645,642.649,642.64a,643.627,643.62c,643.62d,643.62e
  fc3b=643.644,643.645,643.649,643.64a,644.62c,644.62d,644.62e,644.645,644.649,644.64a,645.62c
  fc46=645.62d,645.62e,645.645,645.649,645.64a,646.62c,646.62d,646.62e,646.645,646.649,646.64a
  fc51=647.62c,647.645,647.649,647.64a,64a.62c,64a.62d,64a.62e,64a.645,64a.649,64a.64a,630.670
  fc5c=631.670,649.670,20.64c.651,20.64d.651,20.64e.651,20.64f.651,20.650.651,20.651.670,626.631
  fc65=626.632,626.645,626.646,626.649,626.64a,628.631,628.632,628.645,628.646,628.649,628.64a
  fc70=62a.631,62a.632,62a.645,62a.646,62a.649,62a.64a,62b.631,62b.632,62b.645,62b.646,62b.649
  fc7b=62b.64a,641.649,641.64a,642.649,642.64a,643.627,643.644,643.645,643.649,643.64a,644.645
  fc86=644.649,644.64a,645.627,645.645,646.631,646.632,646.645,646.646,646.649,646.64a,649.670
  fc91=64a.631,64a.632,64a.645,64a.646,64a.649,64a.64a,626.62c,626.62d,626.62e,626.645,626.647
  fc9c=628.62c,628.62d,628.62e,628.645,628.647,62a.62c,62a.62d,62a.62e,62a.645,62a.647,62b.645
  fca7=62c.62d,62c.645,62d.62c,62d.645,62e.62c,62e.645,633.62c,633.62d,633.62e,633.645,635.62d
  fcb2=635.62e,635.645,636.62c,636.62d,636.62e,636.645,637.62d,638.645,639.62c,639.645,63a.62c
  fcbd=63a.645,641.62c,641.62d,641.62e,641.645,642.62d,642.645,643.62c,643.62d,643.62e,643.644
  fcc8=643.645,644.62c,644.62d,644.62e,644.645,644.647,645.62c,645.62d,645.62e,645.645,646.62c
  fcd3=646.62d,646.62e,646.645,646.647,647.62c,647.645,647.670,64a.62c,64a.62d,64a.62e,64a.645
  fcde=64a.647,626.645,626.647,628.645,628.647,62a.645,62a.647,62b.645,62b.647,633.645,633.647
  fce9=634.645,634.647,643.644,643.645,644.645,646.645,646.647,64a.645,64a.647,640.64e.651
  fcf3=640.64f.651,640.650.651,637.649,637.64a,639.649,639.64a,63a.649,63a.64a,633.649,633.64a
  fcfd=634.649,634.64a,62d.649,62d.64a,62c.649,62c.64a,62e.649,62e.64a,635.649,635.64a,636.649
  fd08=636.64a,634.62c,634.62d,634.62e,634.645,634.631,633.631,635.631,636.631,637.649,637.64a
  fd13=639.649,639.64a,63a.649,63a.64a,633.649,633.64a,634.649,634.64a,62d.649,62d.64a,62c.649
  fd1e=62c.64a,62e.649,62e.64a,635.649,635.64a,636.649,636.64a,634.62c,634.62d,634.62e,634.645
  fd29=634.631,633.631,635.631,636.631,634.62c,634.62d,634.62e,634.645,633.647,634.647,637.645
  fd34=633.62c,633.62d,633.62e,634.62c,634.62d,634.62e,637.645,638.645 fd3c~2=627.64b
  fd50=62a.62c.645 fd51~2=62a.62d.62c fd53=62a.62d.645,62a.62e.645,62a.645.62c,62a.645.62d
  fd57=62a.645.62e fd58~2=62c.645.62d fd5a=62d.645.64a,62d.645.649,633.62d.62c,633.62c.62d
  fd5e=633.62c.649 fd5f~2=633.645.62d fd61=633.645.62c fd62~2=633.645.645 fd64~2=635.62d.62d
  fd66=635.645.645 fd67~2=634.62d.645 fd69=634.62c.64a fd6a~2=634.645.62e fd6c~2=634.645.645
  fd6e=636.62d.649 fd6f~2=636.62e.645 fd71~2=637.645.62d fd73=637.645.645,637.645.64a,639.62c.645
  fd76~2=639.645.645 fd78=639.645.649,63a.645.645,63a.645.64a,63a.645.649 fd7c~2=641.62e.645
  fd7e=642.645.62d,642.645.645,644.62d.645,644.62d.64a fd82=644.62d.649 fd83~2=644.62c.62c
  fd85~2=644.62e.645 fd87~2=644.645.62d fd89=645.62d.62c,645.62d.645,645.62d.64a,645.62c.62d
  fd8d=645.62c.645,645.62e.62c,645.62e.645 fd92=645.62c.62e,647.645.62c,647.645.645,646.62d.645
  fd96=646.62d.649 fd97~2=646.62c.645 fd99=646.62c.649,646.645.64a,646.645.649 fd9c~2=64a.645.645
  fd9e=628.62e.64a,62a.62c.64a,62a.62c.649,62a.62e.64a,62a.62e.649,62a.645.64a,62a.645.649
  fda5=62c.645.64a,62c.62d.649,62c.645.649,633.62e.649,635.62d.64a,634.62d.64a,636.62d.64a
  fdac=644.62c.64a,644.645.64a,64a.62d.64a,64a.62c.64a,64a.645.64a,645.645.64a,642.645.64a
  fdb3=646.62d.64a,642.645.62d,644.62d.645,639.645.64a,643.645.64a,646.62c.62d,645.62e.64a
  fdba=644.62c.645,643.645.645,644.62c.645,646.62c.62d,62c.62d.64a,62d.62c.64a,645.62c.64a
  fdc1=641.645.64a,628.62d.64a,643.645.645,639.62c.645,635.645.645,633.62e.64a,646.62c.64a
  fdf0=635.644.6d2,642.644.6d2,627.644.644.647,627.643.628.631,645.62d.645.62f,635.644.639.645
  fdf6=631.633.648.644,639.644.64a.647,648.633.644.645,635.644.649
  fdfa=635.644.649.20.627.644.644.647.20.639.644.64a.647.20.648.633.644.645
  fdfb=62c.644.20.62c.644.627.644.647,631.6cc.627.644 fe00~10= fe10=2c fe11=3001,fffd fe13+2=3a
  fe15=21
  fe16=3f fe17+2=3016 fe19=fffd fe30=fffd,2014,2013 fe33~2=5f fe35+2=28 fe37=7b,7d fe39+2=3014
  fe3b+2=3010 fe3d+2=300a fe3f+2=3008 fe41+4=300c fe47=5b,5d fe49~4=20.305 fe4d~3=5f fe50=2c,3001
  fe52=fffd fe54=3b,3a,3f,21,2014 fe59+2=28 fe5b=7b,7d fe5d+2=3014 fe5f=23,26 fe61+2=2a fe63=2d,3c
  fe65=3e,3d fe68=5c fe69+2=24 fe6b=40 fe70=20.64b,640.64b,20.64c fe74=20.64d fe76=20.64e,640.64e
  fe78=20.64f,640.64f,20.650,640.650,20.651,640.651,20.652,640.652 fe80+2=621 fe82+2=622 fe84+2=623
  fe86+2=624 fe88+2=625 fe8a~3=626 fe8d~2=627 fe8f~4=628 fe93~2=629 fe95~4=62a fe99~4=62b fe9d~4=62c
  fea1~4=62d fea5~4=62e fea9~2=62f feab~2=630 fead~2=631 feaf~2=632 feb1~4=633 feb5~4=634 feb9~4=635
  febd~4=636 fec1~4=637 fec5~4=638 fec9~4=639 fecd~4=63a fed1~4=641 fed5~4=642 fed9~4=643 fedd~4=644
  fee1~4=645 fee5~4=646 fee9~4=647 feed~2=648 feef~2=649 fef1~4=64a fef5~2=644.622 fef7~2=644.623
  fef9~2=644.625 fefb~2=644.627 feff= ff01+20=21 ff21+1a=61 ff3b+24=5b ff5f+2=2985 ff61=2e
  ff62+2=300c ff64=3001,30fb,30f2,30a1,30a3,30a5,30a7,30a9,30e3,30e5,30e7,30c3,30fc,30a2,30a4,30a6
  ff74=30a8 ff75+2=30aa ff77=30ad,30af,30b1,30b3,30b5,30b7,30b9,30bb,30bd,30bf,30c1,30c4,30c6,30c8
  ff85+6=30ca ff8b=30d2,30d5,30d8,30db ff8f+5=30de ff94=30e4,30e6 ff96+6=30e8 ff9c=30ef,30f3
  ff9e+2=3099 ffa0= ffa1+2=1100 ffa3*2=11aa ffa4=1102 ffa6=11ad ffa7+3=1103 ffaa+6=11b0 ffb0=111a
  ffb1+3=1106 ffb4=1121 ffb5+a=1109 ffc2+6=1161 ffca+6=1167 ffd2+6=116d ffda+3=1173 ffe0+2=a2
  ffe2=ac,20.304,a6,a5,20a9 ffe8=2502 ffe9+4=2190 ffed=25a0,25cb 10400+28=10428 104b0+24=104d8
  10570*13=10597 10571*5=10598 1057d*7=105a4 1058d*3=105b4 10595=105bc 10781+2=2d0 10783=e6,299,253
  10787*2=2a3 10788=ab66 1078a=2a4 1078b+2=256 1078d=1d91,258,25e,2a9,264,262,260,29b,127,29c,267
  10798=284 10799+2=2aa 1079b=26c,1df04,a78e,26e,1df05,28e,1df06,f8 107a3+2=276 107a5=71,27a,1df08
  107a8+2=27d 107aa=280,2a8,2a6,ab67,2a7,288,2c71 107b2=28f 107b3+2=2a1 107b5=298 107b6+3=1c0
  107b9=1df0a,1df1e 10c80+33=10cc0 10d50+16=10d70 118a0+20=118c0 16e40+20=16e60 16ea0+19=16ebb
  1bca0~4= 1ccd6+1a=61 1ccf0+a=30 1d15e=1d157.1d165,1d158.1d165,1d158.1d165.1d16e,1d158.1d165.1d16f
  1d162=1d158.1d165.1d170,1d158.1d165.1d171 1d164=1d158.1d165.1d172 1d173~8= 1d1bb=1d1b9.1d165
  1d1bc=1d1ba.1d165,1d1b9.1d165.1d16e,1d1ba.1d165.1d16e,1d1b9.1d165.1d16f,1d1ba.1d165.1d16f
  1d400+1a=61 1d41a+1a=61 1d434+1a=61 1d44e*d=61 1d44f*3=62 1d457*9=6a 1d468+1a=61 1d482+1a=61
  1d49c*2=61 1d49f=64 1d4a2=67 1d4a5+2=6a 1d4a9+4=6e 1d4ae+8=73 1d4b6+4=61 1d4bb*b=66 1d4be*3=69
  1d4c6*5=71 1d4d0+1a=61 1d4ea+1a=61 1d504+2=61 1d507+4=64 1d50d+8=6a 1d516+7=73 1d51e+1a=61
  1d538+2=61 1d53b+4=64 1d540+5=69 1d546=6f 1d54a+7=73 1d552+1a=61 1d56c+1a=61 1d586+1a=61
  1d5a0+1a=61 1d5ba+1a=61 1d5d4+1a=61 1d5ee+1a=61 1d608+1a=61 1d622+1a=61 1d63c+1a=61 1d656+1a=61
  1d670+1a=61 1d68a+1a=61 1d6a4=131,237 1d6a8+11=3b1 1d6b9=3b8 1d6ba+7=3c3 1d6c1=2207 1d6c2+11=3b1
  1d6d3~2=3c3 1d6d5+6=3c4 1d6db=2202,3b5,3b8,3ba,3c6,3c1,3c0 1d6e2+11=3b1 1d6f3=3b8 1d6f4+7=3c3
  1d6fb=2207 1d6fc+11=3b1 1d70d~2=3c3 1d70f+6=3c4 1d715=2202,3b5,3b8,3ba,3c6,3c1,3c0 1d71c+11=3b1
  1d72d=3b8 1d72e+7=3c3 1d735=2207 1d736+11=3b1 1d747~2=3c3 1d749+6=3c4 1d74f=2202,3b5,3b8,3ba,3c6
  1d754=3c1,3c0 1d756+11=3b1 1d767=3b8 1d768+7=3c3 1d76f=2207 1d770+11=3b1 1d781~2=3c3 1d783+6=3c4
  1d789=2202,3b5,3b8,3ba,3c6,3c1,3c0 1d790+11=3b1 1d7a1=3b8 1d7a2+7=3c3 1d7a9=2207 1d7aa+11=3b1
  1d7bb~2=3c3 1d7bd+6=3c4 1d7c3=2202,3b5,3b8,3ba,3c6,3c1,3c0 1d7ca~2=3dd 1d7ce+a=30 1d7d8+a=30
  1d7e2+a=30 1d7ec+a=30 1d7f6+a=30 1e030+9=430 1e039+3=43a 1e03c+b=43e 1e047=44b 1e048+2=44d
  1e04a=a689,4d9,456,458,4e9,4af,4cf 1e051+9=430 1e05a+2=43a 1e05c+2=43e 1e05e=441 1e05f+6=443
  1e065+2=44a 1e067=491,456,455,45f,4ab,a651,4b1 1e900+22=1e922 1ee00+2=627 1ee02=62c,62f 1ee05=648
  1ee06=632,62d,637,64a 1ee0a+4=643 1ee0e=633,639,641,635,642,631,634 1ee15+2=62a 1ee17=62e,630,636
  1ee1a=638,63a,66e,6ba,6a1,66f 1ee21=628,62c 1ee24=647 1ee27=62d 1ee29=64a 1ee2a+4=643 1ee2e=633
  1ee2f=639,641,635,642 1ee34=634 1ee35+2=62a 1ee37=62e 1ee39=636 1ee3b=63a 1ee42=62c 1ee47=62d
  1ee49=64a 1ee4b*2=644 1ee4e=633,639 1ee51=635,642 1ee54=634 1ee57=62e 1ee59=636 1ee5b=63a
  1ee5d=6ba 1ee5f=66f 1ee61=628,62c 1ee64=647 1ee67=62d,637,64a 1ee6a*2=643 1ee6d=646,633,639,641
  1ee71=635,642 1ee74=634 1ee75+2=62a 1ee77=62e 1ee79=636,638,63a,66e 1ee7e=6a1 1ee80+2=627
  1ee82=62c,62f 1ee84+2=647 1ee86=632,62d,637,64a 1ee8b+3=644 1ee8e=633,639,641,635,642,631,634
  1ee95+2=62a 1ee97=62e,630,636,638,63a 1eea1=628,62c,62f 1eea5=648,632,62d,637,64a 1eeab+3=644
  1eeae=633,639,641,635,642,631,634 1eeb5+2=62a 1eeb7=62e,630,636,638,63a 1f100=fffd,30.2c,31.2c
  1f103=32.2c,33.2c,34.2c,35.2c,36.2c,37.2c,38.2c,39.2c 1f110=28.61.29,28.62.29,28.63.29,28.64.29
  1f114=28.65.29,28.66.29,28.67.29,28.68.29,28.69.29,28.6a.29,28.6b.29,28.6c.29,28.6d.29,28.6e.29
  1f11e=28.6f.29,28.70.29,28.71.29,28.72.29,28.73.29,28.74.29,28.75.29,28.76.29,28.77.29,28.78.29
  1f128=28.79.29,28.7a.29,3014.73.3015,63,72,63.64,77.7a 1f130+1a=61 1f14a=68.76,6d.76,73.64,73.73
  1f14e=70.70.76,77.63 1f16a=6d.63,6d.64,6d.72 1f190=64.6a 1f200=307b.304b,30b3.30b3,30b5 1f210=624b
  1f211=5b57,53cc,30c7,4e8c,591a,89e3,5929,4ea4,6620,7121,6599,524d,5f8c,518d,65b0,521d,7d42,751f
  1f223=8ca9,58f0,5439,6f14,6295,6355,4e00,4e09,904a,5de6,4e2d,53f3,6307,8d70,6253,7981,7a7a,5408
  1f235=6e80,6709,6708,7533,5272,55b6,914d 1f240=3014.672c.3015,3014.4e09.3015,3014.4e8c.3015
  1f243=3014.5b89.3015,3014.70b9.3015,3014.6253.3015,3014.76d7.3015,3014.52dd.3015,3014.6557.3015
  1f250=5f97,53ef 1fbf0+a=30 2f800=4e3d,4e38,4e41,20122,4f60,4fae,4fbb,5002,507a,5099,50e7,50cf,349e
  2f80d=2063a,514d,5154,5164,5177,2051c,34b9,5167,518d,2054b,5197,51a4,4ecc,51ac,51b5,291df,51f5
  2f81e=5203,34df,523b,5246,5272,5277,3515,52c7,52c9,52e4,52fa 2f829+2=5305 2f82b=5317,5349,5351
  2f82e=535a,5373 2f830*2=537d 2f831=537f 2f833=537f,20a2c,7070,53ca,53df,20b63,53eb,53f1,5406,549e
  2f83d=5438,5448,5468,54a2,54f6,5510,5553,5563 2f845~2=5584 2f847=5599,55ab,55b3,55c2,5716,5606
  2f84d=5717,5651,5674,5207,58ee,57ce,57f4,580d,578b,5832,5831,58ac,214e4,58f2,58f7,5906,591a,5922
  2f85f=5962,216a8,216ea,59ec,5a1b,5a27,59d8,5a66,36ee,36fc,5b08 2f86a~2=5b3e 2f86c=219c8,5bc3,5bd8
  2f86f=5be7,5bf3,21b18,5bff,5c06,5f53,5c22,3781,5c60,5c6e,5cc0,5c8d 2f87b*2=21de4 2f87c=5d43
  2f87e=5d6e,5d6b,5d7c 2f881+2=5de1 2f883=382f,5dfd,5e28,5e3d,5e69,3862,22183,387c,5eb0,5eb3,5eb6
  2f88e=5eca,2a392,5efe 2f891~2=22331 2f893=8201 2f894~2=5f22 2f896=38c7,232b8,261da,5f62,5f6b,38e3
  2f89c=5f9a,5fcd,5fd7,5ff9,6081,393a,391c,6094,226d4,60c7,6148,614c,614e,614c,617a,618e,61b2,61a4
  2f8ae=61af,61de,61f2,61f6,6210,621b,625d,62b1,62d4,6350,22b0c,633d,62fc,6368,6383,63e4,22bf1,6422
  2f8c0=63c5,63a9,3a2e,6469,647e,649d,6477,3a6c,654f,656c,2300a,65e3,66f8,6649,3b19,6691,3b08,3ae4
  2f8d2=5192,5195,6700,669c,80ad,43d9,6717,671b,6721,675e,6753,233c3,3b49,67fa,6785,6852,6885,2346d
  2f8e4=688e,681f,6914,3b9d,6942,69a3,69ea,6aa8,236a3,6adb,3c18,6b21,238a7,6b54,3c4e,6b72,6b9f
  2f8f5+2=6bba 2f8f7=23a8d,21d0b,23afa,6c4e,23cbc,6cbf,6ccd,6c67,6d16,6d3e,6d77,6d41,6d69,6d78,6d85
  2f906=23d1e,6d34,6e2f,6e6e,3d33,6ecb,6ec7,23ed1,6df9,6f6e,23f5e,23f8e,6fc6,7039,701e,701b,3d96
  2f917=704a,707d,7077,70ad,20525,7145,24263,719c,243ab,7228,7235,7250,24608,7280,7295,24735,24814
  2f928=737a,738b,3eac,73a5 2f92c~2=3eb8 2f92e=7447,745c,7471,7485,74ca,3f1b,7524,24c36,753e,24c92
  2f938=7570,2219f,7610,24fa1,24fb8,25044,3ffc,4008,76f4,250f3,250f2,25119,25133 2f945+2=771e
  2f947=771f,774a,4039,778b,4046,4096,2541d,784e,788c,78cc,40e3,25626,7956,2569a,256c5,798f,79eb
  2f958=412f,7a40,7a4a,7a4f,2597c 2f95d~2=25aa7 2f95f=7aee,4202,25bab,7bc6,7bc9,4227,25c80,7cd2,42a0
  2f968=7ce8,7ce3,7d00,25f86,7d63,4301,7dc7,7e02,7e45,4334,26228,26247,4359,262d9,7f7a,2633e,7f95
  2f979=7ffa,8005,264da,26523,8060,265a8,8070,2335f,43d5,80b2,8103,440b,813e,5ab5,267a7,267b5,23393
  2f98a=2339c,8201,8204,8f9e,446b,8291,828b,829d,52b3,82b1,82b3,82bd,82e6,26b3c,82e5,831d,8363,83ad
  2f99c=8323,83bd,83e7,8457,8353,83ca,83cc,83dc,26c36,26d6b,26cd5,452b,84f1,84f3,8516,273ca,8564
  2f9ad=26f2c,455d,4561,26fb1,270d2,456b,8650,865c,8667,8669,86a9,8688,870e,86e2,8779,8728,876b,8786
  2f9bf=45d7,87e1,8801,45f9,8860,8863,27667,88d7,88de,4635,88fa,34bb,278ae,27966,46be,46c7,8aa0,8aed
  2f9d1=8b8a,8c55,27ca8,8cab,8cc1,8d1b,8d77,27f2f,20804,8dcb,8dbc,8df0,208de,8ed4,8f38,285d2,285ed
  2f9e2=9094,90f1,9111,2872e,911b,9238 2f9e8+2=92d7 2f9ea=927c,93f9,9415,28bfa,958b,4995,95b7,28d77
  2f9f2=49e6,96c3,5db2,9723,29145,2921a,4a6e,4a76,97e0,2940a,4ab2,29496 2f9fe~2=980b 2fa00=9829
  2fa01=295b6,98e2,4b33,9929,99a7,99c2,99fe,4bce,29b30,9b12,9c40,9cfd,4cce,4ced,9d67,2a0ce,4cf8
  2fa12=2a105,2a20e,2a291,9ebb,4d56,9ef9,9efe,9f05,9f0f,9f16,9f3b,2a600 e0001= e0020~60= e0100~f0="

def fold (c : Char) : List Char :=
  if c.toNat < 0x80 then [c.toLower] else ((foldings.find? c).map (·.map Char.ofNat)).getD [c]

end VoiceHub.Text
