import VoiceHub.Text.Table

/-!
Marks, which stand with the character before them.

The class of a mark tells where it goes; marks of the same class keep their order.
A character that does not move has class zero.
-/

namespace VoiceHub.Text

/-- The marks with their classes. -/
def marks : Table := .parse "
  300~15=e6 315=e8 316~4=dc 31a=e8 31b=d8 31c~5=dc 321~2=ca 323~4=dc 327~2=ca 329~b=dc 334~5=1
  339~4=dc 33d~8=e6 345=f0 346=e6 347~3=dc 34a~3=e6 34d~2=dc 34f=0 350~3=e6 353~4=dc 357=e6 358=e8
  359~2=dc 35b=e6 35c=e9 35d~2=ea 35f=e9 360~2=ea 362=e9 363~d=e6 483~5=e6 488~2=0 591=dc 592~4=e6
  596=dc 597~3=e6 59a=de 59b=dc 59c~6=e6 5a2~6=dc 5a8~2=e6 5aa=dc 5ab~2=e6 5ad=de 5ae=e4 5af=e6
  5b0=a 5b1=b 5b2=c 5b3=d 5b4=e 5b5=f 5b6=10 5b7=11 5b8=12 5b9~2=13 5bb=14 5bc=15 5bd=16 5bf=17
  5c1=18 5c2=19 5c4=e6 5c5=dc 5c7=12 610~8=e6 618=1e 619=1f 61a=20 64b=1b 64c=1c 64d=1d 64e=1e
  64f=1f 650=20 651=21 652=22 653~2=e6 655~2=dc 657~5=e6 65c=dc 65d~2=e6 65f=dc 670=23 6d6~7=e6
  6df~4=e6 6e3=dc 6e4=e6 6e7~2=e6 6ea=dc 6eb~2=e6 6ed=dc 711=24 730=e6 731=dc 732~2=e6 734=dc
  735~2=e6 737~3=dc 73a=e6 73b~2=dc 73d=e6 73e=dc 73f~3=e6 742=dc 743=e6 744=dc 745=e6 746=dc 747=e6
  748=dc 749~2=e6 7a6~b=0 7eb~7=e6 7f2=dc 7f3=e6 7fd=dc 816~4=e6 81b~9=e6 825~3=e6 829~5=e6 859~3=dc
  897~2=e6 899~3=dc 89c~4=e6 8ca~5=e6 8cf~5=dc 8d4~e=e6 8e3=dc 8e4~2=e6 8e6=dc 8e7~2=e6 8e9=dc
  8ea~3=e6 8ed~3=dc 8f0=1b 8f1=1c 8f2=1d 8f3~3=e6 8f6=dc 8f7~2=e6 8f9~2=dc 8fb~5=e6 900~4=0 93a~2=0
  93c=7 93e~f=0 94d=9 94e~2=0 951=e6 952=dc 953~2=e6 955~3=0 962~2=0 981~3=0 9bc=7 9be~7=0 9c7~2=0
  9cb~2=0 9cd=9 9d7=0 9e2~2=0 9fe=e6 a01~3=0 a3c=7 a3e~5=0 a47~2=0 a4b~2=0 a4d=9 a51=0 a70~2=0 a75=0
  a81~3=0 abc=7 abe~8=0 ac7~3=0 acb~2=0 acd=9 ae2~2=0 afa~6=0 b01~3=0 b3c=7 b3e~7=0 b47~2=0 b4b~2=0
  b4d=9 b55~3=0 b62~2=0 b82=0 bbe~5=0 bc6~3=0 bca~3=0 bcd=9 bd7=0 c00~5=0 c3c=7 c3e~7=0 c46~3=0
  c4a~3=0 c4d=9 c55=54 c56=5b c62~2=0 c81~3=0 cbc=7 cbe~7=0 cc6~3=0 cca~3=0 ccd=9 cd5~2=0 ce2~2=0
  cf3=0 d00~4=0 d3b~2=9 d3e~7=0 d46~3=0 d4a~3=0 d4d=9 d57=0 d62~2=0 d81~3=0 dca=9 dcf~6=0 dd6=0
  dd8~8=0 df2~2=0 e31=0 e34~4=0 e38~2=67 e3a=9 e47=0 e48~4=6b e4c~3=0 eb1=0 eb4~4=0 eb8~2=76 eba=9
  ebb~2=0 ec8~4=7a ecc~3=0 f18~2=dc f35=dc f37=dc f39=d8 f3e~2=0 f71=81 f72=82 f73=0 f74=84 f75~5=0
  f7a~4=82 f7e~2=0 f80=82 f81=0 f82~2=e6 f84=9 f86~2=e6 f8d~b=0 f99~24=0 fc6=dc 102b~c=0 1037=7
  1038=0 1039~2=9 103b~4=0 1056~4=0 105e~3=0 1062~3=0 1067~7=0 1071~4=0 1082~b=0 108d=dc 108f=0
  109a~4=0 135d~3=e6 1712~2=0 1714~2=9 1732~2=0 1734=9 1752~2=0 1772~2=0 17b4~1e=0 17d2=9 17d3=0
  17dd=e6 180b~3=0 180f=0 1885~2=0 18a9=e4 1920~c=0 1930~9=0 1939=de 193a=e6 193b=dc 1a17=e6 1a18=dc
  1a19~3=0 1a55~a=0 1a60=9 1a61~14=0 1a75~8=e6 1a7f=dc 1ab0~5=e6 1ab5~6=dc 1abb~2=e6 1abd=dc 1abe=0
  1abf~2=dc 1ac1~2=e6 1ac3~2=dc 1ac5~5=e6 1aca=dc 1acb~12=e6 1add=dc 1ae0~6=e6 1ae6=dc 1ae7~4=e6
  1aeb=ea 1b00~5=0 1b34=7 1b35~f=0 1b44=9 1b6b=e6 1b6c=dc 1b6d~7=e6 1b80~3=0 1ba1~9=0 1baa~2=9
  1bac~2=0 1be6=7 1be7~b=0 1bf2~2=9 1c24~13=0 1c37=7 1cd0~3=e6 1cd4=1 1cd5~5=dc 1cda~2=e6 1cdc~4=dc
  1ce0=e6 1ce1=0 1ce2~7=1 1ced=dc 1cf4=e6 1cf7=0 1cf8~2=e6 1dc0~2=e6 1dc2=dc 1dc3~7=e6 1dca=dc
  1dcb~2=e6 1dcd=ea 1dce=d6 1dcf=dc 1dd0=ca 1dd1~25=e6 1df6=e8 1df7~2=e4 1df9=dc 1dfa=da 1dfb=e6
  1dfc=e9 1dfd=dc 1dfe=e6 1dff=dc 20d0~2=e6 20d2~2=1 20d4~4=e6 20d8~3=1 20db~2=e6 20dd~4=0 20e1=e6
  20e2~3=0 20e5~2=1 20e7=e6 20e8=dc 20e9=e6 20ea~2=1 20ec~4=dc 20f0=e6 2cef~3=e6 2d7f=9 2de0~20=e6
  302a=da 302b=e4 302c=e8 302d=de 302e~2=e0 3099~2=8 a66f=e6 a670~3=0 a674~a=e6 a69e~2=e6 a6f0~2=e6
  a802=0 a806=9 a80b=0 a823~5=0 a82c=9 a880~2=0 a8b4~10=0 a8c4=9 a8c5=0 a8e0~12=e6 a8ff=0 a926~5=0
  a92b~3=dc a947~c=0 a953=9 a980~4=0 a9b3=7 a9b4~c=0 a9c0=9 a9e5=0 aa29~e=0 aa43=0 aa4c~2=0 aa7b~3=0
  aab0=e6 aab2~2=e6 aab4=dc aab7~2=e6 aabe~2=e6 aac1=e6 aaeb~5=0 aaf5=0 aaf6=9 abe3~8=0 abec=0
  abed=9 fb1e=1a fe00~10=0 fe20~7=e6 fe27~7=dc fe2e~2=e6 101fd=dc 102e0=dc 10376~5=e6 10a01~3=0
  10a05~2=0 10a0c=0 10a0d=dc 10a0e=0 10a0f=e6 10a38=e6 10a39=1 10a3a=dc 10a3f=9 10ae5=e6 10ae6=dc
  10d24~4=e6 10d69~5=e6 10eab~2=e6 10efa~2=dc 10efc=0 10efd~3=dc 10f46~2=dc 10f48~3=e6 10f4b=dc
  10f4c=e6 10f4d~4=dc 10f82=e6 10f83=dc 10f84=e6 10f85=dc 11000~3=0 11038~e=0 11046=9 11070=9
  11073~2=0 1107f=9 11080~3=0 110b0~9=0 110b9=9 110ba=7 110c2=0 11100~3=e6 11127~c=0 11133~2=9
  11145~2=0 11173=7 11180~3=0 111b3~d=0 111c0=9 111c9=0 111ca=7 111cb~2=0 111ce~2=0 1122c~9=0
  11235=9 11236=7 11237=0 1123e=0 11241=0 112df~a=0 112e9=7 112ea=9 11300~4=0 1133b~2=7 1133e~7=0
  11347~2=0 1134b~2=0 1134d=9 11357=0 11362~2=0 11366~7=e6 11370~5=e6 113b8~9=0 113c2=0 113c5=0
  113c7~4=0 113cc~2=0 113ce~3=9 113d2=0 113e1~2=0 11435~d=0 11442=9 11443~3=0 11446=7 1145e=e6
  114b0~12=0 114c2=9 114c3=7 115af~7=0 115b8~7=0 115bf=9 115c0=7 115dc~2=0 11630~f=0 1163f=9 11640=0
  116ab~b=0 116b6=9 116b7=7 1171d~e=0 1172b=9 1182c~d=0 11839=9 1183a=7 11930~6=0 11937~2=0
  1193b~2=0 1193d~2=9 11940=0 11942=0 11943=7 119d1~7=0 119da~6=0 119e0=9 119e4=0 11a01~a=0 11a33=0
  11a34=9 11a35~5=0 11a3b~4=0 11a47=9 11a51~b=0 11a8a~f=0 11a99=9 11b60~8=0 11c2f~8=0 11c38~7=0
  11c3f=9 11c92~16=0 11ca9~e=0 11d31~6=0 11d3a=0 11d3c~2=0 11d3f~3=0 11d42=7 11d43=0 11d44~2=9
  11d47=0 11d8a~5=0 11d90~2=0 11d93~4=0 11d97=9 11ef3~4=0 11f00~2=0 11f03=0 11f34~7=0 11f3e~3=0
  11f41~2=9 11f5a=0 13440=0 13447~f=0 1611e~11=0 1612f=9 16af0~5=1 16b30~7=e6 16f4f=0 16f51~37=0
  16f8f~4=0 16fe4=0 16ff0~2=6 1bc9d=0 1bc9e=1 1cf00~2e=0 1cf30~17=0 1d165~2=d8 1d167~3=1 1d16d=e2
  1d16e~5=d8 1d17b~8=dc 1d185~5=e6 1d18a~2=dc 1d1aa~4=e6 1d242~3=e6 1da00~37=0 1da3b~32=0 1da75=0
  1da84=0 1da9b~5=0 1daa1~f=0 1e000~7=e6 1e008~11=e6 1e01b~7=e6 1e023~2=e6 1e026~5=e6 1e08f=e6
  1e130~7=e6 1e2ae=e6 1e2ec~4=e6 1e4ec~2=e8 1e4ee=dc 1e4ef=e6 1e5ee=e6 1e5ef=dc 1e6e3=e6 1e6e6=e6
  1e6ee~2=e6 1e6f5=e6 1e8d0~7=dc 1e944~6=e6 1e94a=7 e0100~f0=0"

def isMark (c : Char) : Bool := marks.contains c

def markClass (c : Char) : Nat := ((marks.find? c).getD []).headD 0

/-- The class of the marks that kill a vowel and join two consonants. -/
def joiningClass : Nat := 9

end VoiceHub.Text
