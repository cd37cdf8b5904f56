import CallContract.Text.RunTable

/-!
# Properties that guide segmentation

Texts are cut into characters as a reader sees them, into words and into
sentences by three properties.  Each divides the characters into classes; a
character that plays no part in a segmentation is in none of its classes.
-/

namespace CallContract.Text

/-- A class, by its tag in the table, and the names that a pattern may use. -/
structure BreakClass where
  tag : String
  names : List String

structure BreakProperty where
  names : List String
  classes : List BreakClass
  table : RunTable String

def graphemeClusterBreakRuns : String :=
  "10cnlf2cncr18cn95xx33cn13xxcn594xx112ex275xx7ex263xx45exxxexxx2exxx2exxxex56xx6pp10xx11exxxcn4
  6xx21ex16xxex101xx7exppxx6ex2xx2exxx4ex33xxppxxex30xx27ex91xx11ex58xx9ex9xxex24xx4exxx9exxx3ex
  xx5ex43xx3ex52xx2pp5xx9ex42xx24expp32exsm54xxexsmexxx3sm8ex4smex2smxx7ex10xx2ex29xxex2sm56xxex
  xxex2sm4ex2xx2sm2xx2smex9xxex10xx2ex26xxex2xx2exsm56xxexxx3sm2ex4xx2ex2xx3ex3xxex30xx2ex3xxex1
  1xx2exsm56xxexxx3sm5exxx2exsmxx2smex20xx2ex22xx6exxxex2sm56xxexxx2exsm4ex2xx2sm2xx2smex7xx3ex1
  0xx2ex30xxex59xxexsmex2sm3xx3smxx3smex9xxex40xxex3smex55xxexxx3ex4smxx3exxx4ex7xx2ex11xx2ex29x
  xex2sm56xxexxxsm2exsmex2smxx3exxx4ex7xx2ex11xx2ex15xxsm12xx2ex2sm55xx2exxxex2sm4exxx3smxx3smex
  pp8xxex10xx2ex29xxex2sm70xxex4xxex2sm3exxxexxx7smex18xx2sm61xxexxxsm7ex12xx8ex98xxexxxsm9ex11x
  x7ex73xx2ex27xxexxxexxxex4xx2sm49xx14exsm5exxx2ex5xx11exxx36ex9xxex102xx4exsm6exxx2ex2sm2ex23x
  x2sm2ex4xx3ex16xx4ex13xxexxxsm2ex6xxex15xxex98xx96le72vo88tr349xx3ex946xx4ex28xx3ex29xx2ex30xx
  2ex64xx2exsm7ex8smex2sm11ex9xxex45xx3excnex117xx2ex34xxex118xx3ex4sm2ex3sm4xx2smex6sm3ex219xx2
  ex2smex57xxsmexsm7exxxexxxex2xx8ex6sm10ex2xxex48xx31ex49xx4exsm47xx10ex4sm3ex38xx9ex12xx2exsm3
  0xxsm4ex2sm6ex56xxexsm2ex3smexsm5ex48xx8sm8ex2sm2ex152xx3exxx13exsm7ex4xxex6xxex2xxsm2ex198xx6
  4ex523xxcnexzj2cn24xx7cn49xx16cn96xx33ex3070xx3ex141xxex96xx32ex554xx6ex105xx2ex30164xx4exxx10
  ex32xx2ex80xx2ex272xxex3xxex4xxex23xx2sm2exsm4xxex83xx2sm50xx16sm2ex26xx18ex13xxex38xx8ex25xx1
  1exsmex12xx29le3xx3exsm47xxex2sm4ex2sm2ex2smex36xxex67xx6ex2sm2ex2sm2ex12xxex8xxexsm46xxex51xx
  exxx3ex2xx2ex5xx2exxxex41xxsm2ex2sm5xxsmex236xx2smex2smex2smxxsmex18xxlv27ltlv27ltlv27ltlv27lt
  lv27ltlv27ltlv27ltlv27ltlv27ltlv27ltlv27ltlv27ltlv27ltlv27ltlv27ltlv27ltlv27ltlv27ltlv27ltlv27
  ltlv27ltlv27ltlv27ltlv27ltlv27ltlv27ltlv27ltlv27ltlv27ltlv27ltlv27ltlv27ltlv27ltlv27ltlv27ltlv
  27ltlv27ltlv27ltlv27ltlv27ltlv27ltlv27ltlv27ltlv27ltlv27ltlv27ltlv27ltlv27ltlv27ltlv27ltlv27lt
  lv27ltlv27ltlv27ltlv27ltlv27ltlv27ltlv27ltlv27ltlv27ltlv27ltlv27ltlv27ltlv27ltlv27ltlv27ltlv27
  ltlv27ltlv27ltlv27ltlv27ltlv27ltlv27ltlv27ltlv27ltlv27ltlv27ltlv27ltlv27ltlv27ltlv27ltlv27ltlv
  27ltlv27ltlv27ltlv27ltlv27ltlv27ltlv27ltlv27ltlv27ltlv27ltlv27ltlv27ltlv27ltlv27ltlv27ltlv27lt
  lv27ltlv27ltlv27ltlv27ltlv27ltlv27ltlv27ltlv27ltlv27ltlv27ltlv27ltlv27ltlv27ltlv27ltlv27ltlv27
  ltlv27ltlv27ltlv27ltlv27ltlv27ltlv27ltlv27ltlv27ltlv27ltlv27ltlv27ltlv27ltlv27ltlv27ltlv27ltlv
  27ltlv27ltlv27ltlv27ltlv27ltlv27ltlv27ltlv27ltlv27ltlv27ltlv27ltlv27ltlv27ltlv27ltlv27ltlv27lt
  lv27ltlv27ltlv27ltlv27ltlv27ltlv27ltlv27ltlv27ltlv27ltlv27ltlv27ltlv27ltlv27ltlv27ltlv27ltlv27
  ltlv27ltlv27ltlv27ltlv27ltlv27ltlv27ltlv27ltlv27ltlv27ltlv27ltlv27ltlv27ltlv27ltlv27ltlv27ltlv
  27ltlv27ltlv27ltlv27ltlv27ltlv27ltlv27ltlv27ltlv27ltlv27ltlv27ltlv27ltlv27ltlv27ltlv27ltlv27lt
  lv27ltlv27ltlv27ltlv27ltlv27ltlv27ltlv27ltlv27ltlv27ltlv27ltlv27ltlv27ltlv27ltlv27ltlv27ltlv27
  ltlv27ltlv27ltlv27ltlv27ltlv27ltlv27ltlv27ltlv27ltlv27ltlv27ltlv27ltlv27ltlv27ltlv27ltlv27ltlv
  27ltlv27ltlv27ltlv27ltlv27ltlv27ltlv27ltlv27ltlv27ltlv27ltlv27ltlv27ltlv27ltlv27ltlv27ltlv27lt
  lv27ltlv27ltlv27ltlv27ltlv27ltlv27ltlv27ltlv27ltlv27ltlv27ltlv27ltlv27ltlv27ltlv27ltlv27ltlv27
  ltlv27ltlv27ltlv27ltlv27ltlv27ltlv27ltlv27ltlv27ltlv27ltlv27ltlv27ltlv27ltlv27ltlv27ltlv27ltlv
  27ltlv27ltlv27ltlv27ltlv27ltlv27ltlv27ltlv27ltlv27ltlv27ltlv27ltlv27ltlv27ltlv27ltlv27ltlv27lt
  lv27ltlv27ltlv27ltlv27ltlv27ltlv27ltlv27ltlv27ltlv27ltlv27ltlv27ltlv27ltlv27ltlv27ltlv27ltlv27
  ltlv27ltlv27ltlv27ltlv27ltlv27ltlv27ltlv27ltlv27ltlv27ltlv27ltlv27ltlv27ltlv27ltlv27ltlv27ltlv
  27ltlv27ltlv27ltlv27ltlv27ltlv27ltlv27ltlv27ltlv27ltlv27ltlv27ltlv27ltlv27ltlv27ltlv27ltlv27lt
  lv27ltlv27ltlv27ltlv27ltlv27ltlv27ltlv27ltlv27ltlv27ltlv27ltlv27ltlv27ltlv27ltlv27ltlv27ltlv27
  ltlv27ltlv27ltlv27ltlv27ltlv27ltlv27ltlv27ltlv27ltlv27ltlv27ltlv27ltlv27ltlv27ltlv27ltlv27ltlv
  27ltlv27ltlv27ltlv27ltlv27ltlv27ltlv27ltlv27ltlv27ltlv27ltlv27ltlv27ltlv27ltlv27ltlv27ltlv27lt
  lv27ltlv27ltlv27ltlv27ltlv27ltlv27ltlv27ltlv27ltlv27ltlv27ltlv27ltlv27ltlv27ltlv27ltlv27ltlv27
  ltlv27ltlv27ltlv27lt12xx23vo4xx49tr8994xxex737xx16ex16xx16ex207xxcn158xx2ex80xx12cn513xxex226x
  xex149xx5ex1670xx3exxx2ex5xx4ex40xx3ex4xxex165xx2ex573xx4ex65xx5ex317xx2ex79xx4ex70xx11ex49xx4
  ex122xxsmexsm53xx15ex41xxex2xx2ex10xx3exsm45xx3sm4ex2sm2ex2xxpp4xxex10xxpp50xx3ex36xx5exsm8ex1
  6xx2sm44xxex12xx2exsm48xx3sm9exsmexxx2pp5xx4exxxsmex92xx3sm3ex2sm4ex6xxex2xxex157xxex3sm8ex21x
  x2ex2sm55xx2exxxexsmex4sm2xx2sm2xx2smex9xxex10xx2sm2xx7ex3xx5ex67xxex2sm6exxxex2xxexxx3exsmxx2
  sm3exppex14xx2ex82xx3sm8ex2sm3exsmex23xxex81xxex2sm6exsmex2smexsm2exsm2ex235xxex2sm4ex2xx4sm2e
  xsm2ex27xx2ex82xx3sm8ex2smexsm2ex106xxexsmex2sm8ex101xxexsmex2xx4exsm5ex256xx3sm9exsm2ex245xxe
  x5smxx2sm2xx4exppsmppsmex141xx3sm4ex2xx2ex4smex3xxsm28xx10ex40xx6exsmpp4ex8xxex9xx6ex2sm3ex40x
  x6pp13exsm2ex405xxsm7exxx6exsmex82xx22exxxsm7exsm2exsm2ex122xx6ex3xxexxx2exxx7exppex66xx5smxx2
  exxx2smexsmex347xx2ex2sm9xx2exppsm48xx2sm5ex3xx2sm3ex23xxex5333xx16cnex6xx15ex11464xx12ex3sm3e
  x2496xx5ex59xx7ex556xxvo3xx4vo484xxexxx55sm7xx4ex81xxex11xx2ex19627xx2exxx4cn4700xx46ex2xx23ex
  542xx5ex3xx6ex8cn8ex2xx7ex30xx4ex148xx3ex1979xx55ex4xx50ex8xxex14xxex22xx5exxx15ex1360xx7exxx1
  7ex2xx7exxx2exxx5ex100xxex160xx7ex375xxex61xx4ex508xx4ex254xx2ex736xx7ex109xx7ex2203xx26ri507x
  x5ex789504xx32cn96ex128cn240ex3600cn192512xx"

def graphemeClusterBreakClasses : List BreakClass :=
  [⟨"cr", ["cr"]⟩, ⟨"cn", ["control", "cn"]⟩, ⟨"ex", ["extend", "ex"]⟩, ⟨"le", ["l"]⟩,
    ⟨"lf", ["lf"]⟩, ⟨"lv", ["lv"]⟩, ⟨"lt", ["lvt"]⟩, ⟨"pp", ["prepend", "pp"]⟩,
    ⟨"ri", ["regionalindicator", "ri"]⟩, ⟨"sm", ["spacingmark", "sm"]⟩, ⟨"tr", ["t"]⟩,
    ⟨"vo", ["v"]⟩, ⟨"zj", ["zwj"]⟩]

def graphemeClusterBreak : BreakProperty :=
  ⟨["graphemeclusterbreak", "gcb"], graphemeClusterBreakClasses,
    .ofRuns (readRuns 2 graphemeClusterBreakRuns)⟩

def wordBreakRuns : String :=
  "10xxlf2nlcr18xxwsxxdq4xxsq4xxmnxxmbxx10numlmn5xx26le4xxenxx26le10xxnl36xxle2xxfo7xxlexxml2xxle
  5xx23lexx31lexx480le6xx34le112ex5lexx2le2xx4lemnle6xxleml3lexxlexx20lexx83lexx139lexx7ex166lex
  x38le2xx4lexxleml41lemnle6xx45exxxexxx2exxx2exxxex8xx27hl4xx4hlleml11xx6nu6xx2mn2xx11exxxfo3xx
  43le21ex10nuxxnumnxx2leex99lexxle7exnuxx6ex2le2exxx4ex2le10nu3le2xxle15xx2leex30le27ex2xx89le1
  1exle14xx10nu33le9ex2le2xxmnxxle2xxex2xx22le4exle9exle3exle5ex18xx25le3ex4xx11le5xx24lexx6lexx
  2nu5xx9ex42le24exnu33ex54le3exle18exle7ex10le2ex2xx10nuxx16le3exxx8le2xx2le2xx22lexx7lexxle3xx
  4le2xxexle7ex2xx2ex2xx3exle8xxex4xx2lexx3le2ex2xx10nu2le10xxlexxex2xx3exxx6le4xx2le2xx22lexx7l
  exx2lexx2lexx2le2xxexxx5ex4xx2ex2xx3ex3xxex7xx4lexxle7xx10nu2ex3leex11xx3exxx9lexx3lexx22lexx7
  lexx2lexx5le2xxexle8exxx3exxx3ex2xxle15xx2le2ex2xx10nu9xxle6exxx3exxx8le2xx2le2xx22lexx7lexx2l
  exx5le2xxexle7ex2xx2ex2xx3ex7xx3ex4xx2lexx3le2ex2xx10nuxxle16xxexlexx6le3xx3lexx4le3xx2lexxlex
  x2le3xx2le3xx3le3xx12le4xx5ex3xx3exxx4ex2xxle6xxex14xx10nu16xx5ex8lexx3lexx23lexx16le2xxexle7e
  xxx3exxx4ex7xx2exxx3le2xxle2xx2le2ex2xx10nu16xxle3exxx8lexx3lexx23lexx10lexx5le2xxexle7exxx3ex
  xx4ex7xx2ex6xx2lexx2le2ex2xx10nuxx2leex12xx4ex9lexx3lexx41le2exle7exxx3exxx4exle5xx3leex7xx3le
  2ex2xx10nu10xx6lexx3exxx18le3xx24lexx9lexxle2xx7le3xxex4xx6exxxexxx8ex6xx10nu2xx2ex61xxex2xx7e
  x12xx8exxx10nu87xxex2xx9ex11xx7exxx10nu38xxle23xx2ex6xx10nu11xxexxxexxxex4xx2ex8lexx36le4xx20e
  xxx2ex5le11exxx36ex9xxex100xx20exxx10nu12xx4ex4xx3exxx3ex2xx7ex3xx4ex13xx12exxxex10nu4ex2xx38l
  exxle5xxle2xx43lexx333lexx4le2xx7lexxlexx4le2xx41lexx4le2xx33lexx4le2xx7lexxlexx4le2xx15lexx57
  lexx4le2xx67le2xx3ex32xx16le16xx86le2xx6le3xx620le2xx17lews26le5xx75le3xx11le7xx18le4ex9xx19le
  3ex11xx18le2ex12xx13lexx3lexx2ex64xx32ex9xxex2xx10nu33xx3exfoex10nu6xx89le7xx5le2ex34leexle5xx
  70le10xx31lexx12ex4xx12ex10xx10nu128xx11nu37xx23le5ex57xx10exxx29ex2xxex10nu6xx10nu22xx31ex49x
  x5ex47le17ex8le3xx10nu17xx9ex12xx3ex30le13ex2le10nu44le14ex12xx36le20ex8xx10nu3xx3le10nu36le2x
  x11le5xx43le2xx3le16xx3exxx21ex4leex6leex2le3exle5xx192le64ex278le2xx6le2xx38le2xx6le2xx8lexxl
  exxlexxlexx31le2xx53lexx7lexxle3xx3lexx7le3xx4le2xx6le4xx13le5xx3lexx7le3xx7wsxx3wsxxexzj2fo8x
  x2mb10xxmb2xxml2nl5foen15xx2en3xxmn15xxen10xxws5foxx10foxxle13xxle16xx13le51xx33ex17xxle4xxle2
  xx10lexxle3xx5le6xxlexxlexxlexx4lexx11le2xx4le5xx5le4xxle17xx41le813xx52le1814xx229le6xx4le3ex
  2le12xx38lexxle5xxle2xx56le7xxle15xxex23le9xx7lexx7lexx7lexx7lexx7lexx7lexx7lexx7lexx32ex47xxl
  e464xxws4xxle36xx6exxx5ka5xx2le92xx2ex2ka3xx91kaxx4ka5xx43lexx94le17xx32le48xx16ka208xx47kaxx8
  8ka27816xx1165le67xx46le2xx269le3xx16le10nu2le20xx47le4exxx10exxx31le2ex80le2ex22xx198le2xx2le
  xxlexx8le21xx16leex3leex4leex23le5ex4xxex19xx52le12xx2ex50le18ex10xx10nu6xx18ex6le3xxlexx2leex
  10nu28le8ex2xx23le13ex12xx29le3xx4ex47le14ex14xxle10nu11xxex10xx10nu6xx41le14ex9xx3leex8le2ex2
  xx10nu33xx3ex50xxexxx3ex2xx2ex5xx2exxxex30xx11le5ex2xx3le2ex10xx6le2xx6le2xx6le9xx7lexx7lexx58
  le6xx115le8exxx2ex2xx10nu6xx11172le12xx23le4xx49le8964xx7le12xx5le5xxhlex10hlxx13hlxx5hlxxhlxx
  2hlxx2hlxx10hl98le33xx363le18xx64le2xx54le40xx12le4xx16ex3xxml12xx16ex3xx2en24xx3enmnxxmbxxmnm
  l26xx5lexx135le2xxfo7xxmb4xxmnxxmbxx10numlmn5xx26le4xxenxx26le11xx56ka2ex31le3xx6le2xx6le2xx6l
  e2xx3le28xx3fo4xx12lexx26lexx19lexx2lexx15le2xx14le34xx123le69xx53le136xxex130xx29le3xx49le15x
  xex31xx32le13xx30le5xx38le5ex5xx30le2xx36le4xx8lexx5le42xx158le2xx10nu6xx36le4xx36le4xx40le8xx
  52le12xx11lexx15lexx7lexx2lexx11lexx15lexx7lexx2le3xx52le12xx311le9xx22le10xx8le24xx6lexx42lex
  x9le69xx6le2xxlexx44lexx2le3xxle2xx23le10xx23le9xx31le65xx19lexx2le10xx22le10xx26le70xx56le6xx
  2le64xxle3exxx2ex5xx4ex4lexx3lexx29le2xx3ex4xxex32xx29le3xx29le35xx8lexx28le2ex25xx54le10xx22l
  e10xx19le13xx18le110xx73le55xx51le13xx51le13xx36le4ex8xx10nu6xx10nu28le3xx5exxx23le250xx42lexx
  2ex3xx2le16xx3le55xx4ex29le10xxle8xx22le11ex31xx18le4ex42xx21le27xx23le9xx3ex53le15ex31xx10nue
  x2le2exle9xx4ex45le11ex2xxnu4xxex10xxnu2xx25le7xx10nu6xx3ex36le14exxx10nu4xxle2exle8xx35leex2x
  xle9xx3ex48le14ex4le4xx4exxx2ex10nulexxle35xx18lexx25le12ex6xxex2leex62xx7lexxlexx4lexx15lexx1
  0le7xx47le12ex5xx10nu6xx4exxx8le2xx2le2xx22lexx7lexx2lexx5lexx2exle7ex2xx2ex2xx3ex2xxle6xxex5x
  x5le2ex2xx7ex3xx5ex11xx10lexxle2xxlexx38lexxle9exxxex2xxexxx4exxx5exleexle13xx2ex29xx53le18ex4
  le5xx10nu4xxex3le30xx48le20ex2lexxle8xx10nu166xx47le7ex2xx9ex23xx4le2ex34xx48le17ex3xxle11xx10
  nu38xx43le13exle7xx10nu6xx20nu57xx15ex4xx10nu198xx44le15ex101xx64le10nu21xx8le2xxle2xx8lexx2le
  xx24le6exxx2ex2xx4exleexle2ex12xx10nu70xx8le2xx39le7ex2xx7exlexxleex27xxle10ex40le7exle4ex8xxe
  x8xxle11ex46le16ex3xxle18xx73le199xx33le15xx10nu6xx9lexx37le8exxx8exle15xx10nu24xx30le2xx22exx
  x14ex73xx7lexx2lexx38le6ex3xxexxx2exxx7exleex8xx10nu6xx6lexx2lexx32le5exxx2exxx5exle7xx10nu310
  xx19le4ex9xx2exleex13lexx34le7ex3xx5ex13xx10nuex85xxle79xx922le102xx111le17xx196le2636xx97le15
  xx1072le16foex6le15ex10xx3995le5xx583le6841xx30le18ex10nu1734xx569le7xx31lexx10nu6xx79lexx10nu
  6xx30le2xx5ex11xx48le7ex9xx4le12xx10nu9xx21le5xx19le432xx45le3xx10nu198xx64le128xx75le4xxexle5
  5ex7xx4ex13le64xx2lexxleex11xx2ex16382xx4kaxx7kaxx2kaxxka287xx3ka50xxka14xx4ka2712xx107le5xx13
  le3xx9le7xx10le3xx2exxx4fo4172xx10nu518xx46ex2xx23ex542xx5ex3xx6ex8fo8ex2xx7ex30xx4ex148xx3ex4
  43xx85lexx71lexx2le2xxle2xx2le2xx4lexx12lexxlexx7lexx65lexx4le2xx8lexx7lexx28lexx4lexx5lexxle3
  xx7lexx340le2xx25lexx25lexx31lexx25lexx31lexx25lexx31lexx25lexx31lexx25lexx8le2xx50nu512xx55ex
  4xx50ex8xxex14xxex22xx5exxx15ex1104xx31le6xx6le213xx7exxx17ex2xx7exxx2exxx5ex5xx62le33xxex112x
  x45le3xx7ex7le2xx10nu4xxle321xx30leex17xx44le4ex10nu470xx28le4ex10nu214xx30le2exle10nu485xx7le
  xx4lexx2lexx15lexx197le11xx7ex41xx68le7exle4xx10nu1190xx4lexx27lexx2lexxle2xxlexx10lexx4lexxle
  xxle6xxle4xxlexxlexxlexx3lexx2lexxle2xxlexxlexxlexxlexxlexx2lexxle2xx4lexx7lexx4lexx4lexxlexx1
  0lexx17le5xx3lexx5lexx17le628xx26le6xx26le6xx26le92xx26ri507xx5ex2032xx10nu787463xxfo30xx96ex1
  28xx240ex196112xx"

def wordBreakClasses : List BreakClass :=
  [⟨"le", ["aletter", "le"]⟩, ⟨"cr", ["cr"]⟩, ⟨"dq", ["doublequote", "dq"]⟩, ⟨"ex", ["extend"]⟩,
    ⟨"en", ["extendnumlet", "ex"]⟩, ⟨"fo", ["format", "fo"]⟩, ⟨"hl", ["hebrewletter", "hl"]⟩,
    ⟨"ka", ["katakana", "ka"]⟩, ⟨"lf", ["lf"]⟩, ⟨"ml", ["midletter", "ml"]⟩,
    ⟨"mn", ["midnum", "mn"]⟩, ⟨"mb", ["midnumlet", "mb"]⟩, ⟨"nl", ["newline", "nl"]⟩,
    ⟨"nu", ["numeric", "nu"]⟩, ⟨"ri", ["regionalindicator", "ri"]⟩,
    ⟨"sq", ["singlequote", "sq"]⟩, ⟨"ws", ["wsegspace"]⟩, ⟨"zj", ["zwj"]⟩]

def wordBreak : BreakProperty :=
  ⟨["wordbreak", "wb"], wordBreakClasses, .ofRuns (readRuns 2 wordBreakRuns)⟩

def sentenceBreakRuns : String :=
  "9xxsplf2spcr18xxspstcl4xx3cl2xx2scatxx10nu2sc3xxstxx26upclxxcl3xx26loclxxcl7xxse26xxsp9xxloclx
  xfo7xxlo4xxlocl4xx23upxx7up24loxx8louplouplouplouplouplouplouplouplouplouplouplouplouplouploup
  louplouplouplouplouplouplouplouplouplouplouplouploup2louplouplouplouplouplouplouploup2louploup
  louplouplouplouplouplouplouplouplouplouplouplouplouplouplouplouplouplouplouplouplouplo2uploupl
  oup3lo2uplouplo2uplo3up2lo4uplo2uplo3up3lo2uplo2uplouplouplo2uploup2louplo2uplo3uplouplo2up2lo
  leup3lo4le2uplo2uplo2uplouplouplouplouplouplouplouploup2louplouplouplouplouplouplouplouploup2l
  o2uplouplo3uplouplouplouplouplouplouplouplouplouplouplouplouplouplouplouplouplouplouplouploupl
  ouplouplouplouplouplouplouplouploup7lo2uplo2up2louplo4uplouplouplouploup69lole36lo7le2lo4xx12l
  e14xx5lo7xxlexxle17xx112exuplouplolexxuplo2xx4loscup6xxupxx3upxxupxx2uplo17upxx9up35loup2lo3up
  3louplouplouplouplouplouplouplouplouplouplouploup5louploxxuplo2up2lo51up48louplouplouplouploup
  louplouplouplouplouplouplouplouplouplouplouplouploxx7exuplouplouplouplouplouplouplouplouploupl
  ouplouplouplouplouplouplouplouplouplouplouplouplouplouplouplouplouplo2uplouplouplouplouplouplo
  up2louplouplouplouplouplouplouplouplouplouplouplouplouplouplouplouplouplouplouplouplouplouplou
  plouplouplouplouplouplouplouplouplouplouplouplouplouplouplouplouplouplouplouplouplouplouploupl
  ouplouploxx38up2xxle3xxsc2xx41lost7xx45exxxexxx2exxx2exxxex8xx27le4xx5le12xx6nu6xx2sc2xx11exxx
  fo3st43le21ex10nuxx2nuxx2leex99lestle7exnuxx6ex2le2exxx4ex2le10nu3le2xxle3st12xxfoleex30le27ex
  2xx89le11exle14xx10nu33le9ex2le2xxscstle2xxex2xx22le4exle9exle3exle5ex9xxstxxst3xx2stxx25le3ex
  4xx11le5xx24lexx6lexx2nu5xx9ex42le24exnu33ex54le3exle18exle7ex10le2ex2st10nuxx16le3exxx8le2xx2
  le2xx22lexx7lexxle3xx4le2xxexle7ex2xx2ex2xx3exle8xxex4xx2lexx3le2ex2xx10nu2le10xxlexxex2xx3exx
  x6le4xx2le2xx22lexx7lexx2lexx2lexx2le2xxexxx5ex4xx2ex2xx3ex3xxex7xx4lexxle7xx10nu2ex3leex11xx3
  exxx9lexx3lexx22lexx7lexx2lexx5le2xxexle8exxx3exxx3ex2xxle15xx2le2ex2xx10nu9xxle6exxx3exxx8le2
  xx2le2xx22lexx7lexx2lexx5le2xxexle7ex2xx2ex2xx3ex7xx3ex4xx2lexx3le2ex2xx10nuxxle16xxexlexx6le3
  xx3lexx4le3xx2lexxlexx2le3xx2le3xx3le3xx12le4xx5ex3xx3exxx4ex2xxle6xxex14xx10nu16xx5ex8lexx3le
  xx23lexx16le2xxexle7exxx3exxx4ex7xx2exxx3le2xxle2xx2le2ex2xx10nu16xxle3exxx8lexx3lexx23lexx10l
  exx5le2xxexle7exxx3exxx4ex7xx2ex6xx2lexx2le2ex2xx10nuxx2leex12xx4ex9lexx3lexx41le2exle7exxx3ex
  xx4exle5xx3leex7xx3le2ex2xx10nu10xx6lexx3exxx18le3xx24lexx9lexxle2xx7le3xxex4xx6exxxexxx8ex6xx
  10nu2xx2ex13xx48leex2le7ex5xx7le8exxx10nu39xx2lexxlexx5lexx24lexxlexx10leex2le9exle2xx5lexxlex
  x7exxx10nu2xx4le32xxle23xx2ex6xx10nu11xxexxxexxxex4cl2ex8lexx36le4xx20exxx2ex5le11exxx36ex9xxe
  x57xx43le20exle10nu2st4xx6le4ex4le3exle3ex2le7ex3le4ex13le12exleex10nu4ex2xx38upxxup5xxup2xx43
  lexxlo332lexx4le2xx7lexxlexx4le2xx41lexx4le2xx33lexx4le2xx7lexxlexx4le2xx15lexx57lexx4le2xx67l
  e2xx3ex2xxst4xx2st23xx16le16xx86up2xx6lo3xx620lexxst17lesp26le2cl3xx75le3xx11le7xx18le4ex9xx19
  le3ex2st9xx18le2ex12xx13lexx3lexx2ex12xx52le32ex2stxxle4xxleex2xx10nu24xxscst4xxscstxx3exfoex1
  0nu6xx89le7xx5le2ex34leexle5xx70le10xx31lexx12ex4xx12ex8xx2st10nu30le2xx5le11xx44le4xx26le6xx1
  1nu37xx23le5ex4xx53le10exxx29ex2xxex10nu6xx10nu13xxle4st4xx31ex49xx5ex47le17ex8lexx2st10nu2st2
  xx2st11xx9ex9xx3st3ex30le13ex2le10nu44le14ex12xx36le20ex3xx2st3xx10nu3xx3le10nu36le2st9louplo5
  xx43le2xx3le16xx3exxx21ex4leex6leex2le3exle5xx192lo64exuplouplouplouplouplouplouplouplouploupl
  ouplouplouplouplouplouplouplouplouplouplouplouplouplouplouplouplouplouplouplouplouplouplouplou
  plouplouplouplouplouplouplouplouplouplouplouplouplouplouplouplouplouplouplouplouplouplouploupl
  ouplouplouplouplouplouplouplouplouplouplouplouplouplouplouplouplouploup9louplouplouplouplouplo
  uplouplouplouplouplouplouplouplouplouplouplouplouplouplouplouplouplouplouplouplouplouplouploup
  louplouplouplouplouplouplouplouplouplouplouplouplouplouplouplouplouplouplouploup9lo8up6lo2xx6u
  p2xx8lo8up8lo8up6lo2xx6up2xx8loxxupxxupxxupxxup8lo8up14lo2xx8lo8up8lo8up8lo8up5loxx2lo5upxxlo3
  xx3loxx2lo5up3xx4lo2xx2lo4up4xx8lo5up5xx3loxx2lo5up3xx11spfo2ex2fo3xx2sc3xx8cl4xxat3xx2se5fosp
  9xx2clxx2st7xx2cl3st21xxsp5foxx10foxxlo11xx2cllo13xx2clxx13lo51xx33ex17xxup4xxup2xxlo3up2lo3up
  loxxup3xx5up6xxupxxupxxupxx4upxxlo4uplo4lelo2xx2lo2up5xxup4lo4xxlo17xx16up16lo3leuplo4le383xx4
  cl29xx2cl395xx26up26lo625xx6cl7xx14cl79xx2cl31xx10cl403xx22cl63xx4cl32xx2cl514xx48up48louplo3u
  p2louplouplouplo4uploup2loup8lo3uplouplouplouplouplouplouplouplouplouplouplouplouplouplouploup
  louplouplouplouplouplouplouplouplouplouplouplouplouplouplouplouplouplouplouplouplouplouplouplo
  uplouplouplouplouplouplouplouplouplouploup2lo6xxuplouplo3exuplo5xx3st4xx38loxxlo5xxlo2xx56le7x
  xle15xxex23le9xx7lexx7lexx7lexx7lexx7lexx7lexx7lexx7lexx32ex14cl14xx2cl2xx10cl4xxstle12xxst5xx
  cl16xx2st8cl419xxspscst2xx3le10cl2xx8clxx3clxx9le6exxx5le2xx5le4xx86le2xx2ex2xx3lexx90lexx4le5
  xx43lexx94le17xx32le48xx16le512xx6592le64xx22157le67xx46lexxst269lexx2st16le10nu2le20xxuploupl
  ouplouplouplouplouplouplouplouplouplouplouplouplouplouplouplouplouplouplouplouplouplole4exxx10
  exxxleuplouplouplouplouplouplouplouplouplouplouplouplouploup3lo2ex80le2exxxst3xxst31xx9le2xxup
  louplouplouplouplouploup3louplouplouplouplouplouplouplouplouplouplouplouplouplouplouplouploupl
  ouplouplouplouplouplouplouplouplouplouplouplouplouploup10louplouplo2uplouplouplouplouplole2xxu
  plouploleuploup3louplouplouplouplouplouplouplouplouplouplo5uplo5uplouplouplouplouplouplouploup
  lo4uplouplo2uplo2xxuploxxloxxlouplouplouploup21xx3louplole3lo7leex3leex4leex23le5ex4xxex19xx52
  le2xx2st8xx2ex50le18ex8xx2st10nu6xx18ex6le3xxlexx2leex10nu28le8exxxst23le13ex12xx29le3xx4ex47l
  e14ex7xx2st5xxle10nu6xx5leex10le10nu5lexx41le14ex9xx3leex8le2ex2xx10nu3xx3st23le3xxle3ex50leex
  le3ex2le2ex5le2exleexle24xx3le2xx11le5ex2st3le2ex10xx6le2xx6le2xx6le9xx7lexx7lexx43loxx14lo6xx
  80lo35le8exst2ex2xx10nu6xx11172le12xx23le4xx49le8452xx366le2xx106le38xx7lo12xx5lo5xxleex10lexx
  13lexx5lexxlexx2lexx2lexx108le33xx363le2cl16xx64le2xx54le40xx12le4xx16ex2scst2sc2st2cl7xx16exx
  x2sc2xx16cl2xx2cl7xx2scatxx2sc2stsc6cl4xxsc12xx5lexx135le2xxfoxxst6xx2cl2xx2scatxx10nu2sc3xxst
  xx26upclxxcl3xx26loclxxclxx2clst2clscxx56le2ex31le3xx6le2xx6le2xx6le2xx3le28xx3fo4xx12lexx26le
  xx19lexx2lexx15le2xx14le34xx123le69xx53le136xxex130xx29le3xx49le15xxex31xx32le13xx30le5xx38le5
  ex5xx30le2xx36le4xx8lexx5le42xx40up40lo78le2xx10nu6xx36up4xx36lo4xx40le8xx52le12xx11upxx15upxx
  7upxx2upxx11loxx15loxx7loxx2lo3xx52le12xx311le9xx22le10xx8le24xxlo2le3loxx42loxx9lo69xx6le2xxl
  exx44lexx2le3xxle2xx23le10xx23le9xx31le65xx19lexx2le10xx22le10xx26le70xx56le6xx2le64xxle3exxx2
  ex5xx4ex4lexx3lexx29le2xx3ex4xxex22xx2st8xx29le3xx29le35xx8lexx28le2ex25xx54le10xx22le10xx19le
  13xx18le110xx73le55xx51up13xx51lo13xx36le4ex8xx10nu6xx10nu6le22up3xx5exxxle22lo250xx42lexx2ex3
  xx2le16xx3le55xx4ex29le10xxle8xx22le11ex4xx5st22xx18le4ex4st38xx21le27xx23le9xx3ex53le15ex2st2
  9xx10nuex2le2exle9xx4ex45le11ex2xxnu4stex10xxnu2xx25le7xx10nu6xx3ex36le14exxx10nuxx3stle2exle8
  xx35leex2xxle9xx3ex48le14ex4le2st2xx4exst2ex10nulexxlexx2st32xx18lexx25le12ex2stxx2stxxex2leex
  62xx7lexxlexx4lexx15lexx10lest6xx47le12ex5xx10nu6xx4exxx8le2xx2le2xx22lexx7lexx2lexx5lexx2exle
  7ex2xx2ex2xx3ex2xxle6xxex5xx5le2ex2xx7ex3xx5ex11xx10lexxle2xxlexx38lexxle9exxxex2xxexxx4exxx5e
  xleexle2st11xx2ex29xx53le18ex4le2st3xx10nu4xxex3le30xx48le20ex2lexxle8xx10nu166xx47le7ex2xx9ex
  xx2st5xx15st4le2ex34xx48le17ex2stxxle11xx10nu38xx43le13exle7xx10nu6xx20nu28xx27le2xx15ex4xx10n
  u2xx3stxx7le185xx44le15ex101xx32up32lo10nu21xx8le2xxle2xx8lexx2lexx24le6exxx2ex2xx4exleexle2ex
  stxxst9xx10nu70xx8le2xx39le7ex2xx7exlexxleex27xxle10ex40le7exle4ex3xx2st3xxex8xxle11ex46le16ex
  xx2stle18xx73le199xx33le15xx10nu6xx9lexx37le8exxx8exle2st13xx10nu24xx30le2xx22exxx14ex73xx7lex
  x2lexx38le6ex3xxexxx2exxx7exleex8xx10nu6xx6lexx2lexx32le5exxx2exxx5exle7xx10nu310xx19le4ex2st7
  xx2exleex13lexx34le7ex3xx5ex2st11xx10nuex85xxle79xx922le102xx111le17xx196le2636xx97le15xx1072l
  e16foex6le15ex10xx3995le5xx583le6841xx30le18ex10nu1734xx569le7xx31lexx10nu4xx2st79lexx10nu6xx3
  0le2xx5exst10xx48le7ex2st7xx4lest11xx10nu9xx21le5xx19le432xx45lexx2st10nu198xx32up32lo24xxst10
  3xx75le4xxexle55ex7xx4ex13le64xx2lexxleex11xx2ex14xx6136le8xx1238le41xx10le8935xx4lexx7lexx2le
  xx291le15xxle29xx3le2xxle14xx4le8xx396le2308xx107le5xx13le3xx9le7xx10le3xx2exst4fo4172xx10nu51
  8xx46ex2xx23ex542xx5ex3xx6ex8fo8ex2xx7ex30xx4ex148xx3ex443xx26up26lo26up7loxx18lo26up26loupxx2
  up2xxup2xx2up2xx4upxx8up4loxxloxx7loxx11lo26up26lo2upxx4up2xx8upxx7upxx26lo2upxx4upxx5upxxup3x
  x7upxx26lo26up26lo26up26lo26up26lo26up26lo26up26lo26up28lo2xx25upxx25loxx6lo25upxx25loxx6lo25u
  pxx25loxx6lo25upxx25loxx6lo25upxx25loxx6louplo2xx50nu512xx55ex4xx50ex8xxex14xxex3xxst18xx5exxx
  15ex1104xx10lole20lo6xx6lo213xx7exxx17ex2xx7exxx2exxx5ex5xx62lo33xxex112xx45le3xx7ex7le2xx10nu
  4xxle321xx30leex17xx44le4ex10nu470xx28le4ex10nu214xx30le2exle10nu485xx7lexx4lexx2lexx15lexx197
  le11xx7ex41xx34up34lo7exle4xx10nu1190xx4lexx27lexx2lexxle2xxlexx10lexx4lexxlexxle6xxle4xxlexxl
  exxlexx3lexx2lexxle2xxlexxlexxlexxlexxlexx2lexxle2xx4lexx7lexx4lexx4lexxlexx10lexx17le5xx3lexx
  5lexx17le628xx26up6xx26up6xx26up1260xx3cl1399xx10nu1030xx42720le32xx4154le6xx222le2xx5762le14x
  x7473le15xx622le2466xx542le1506xx4939le5xx4192le711761xxfo30xx96ex128xx240ex196112xx"

def sentenceBreakClasses : List BreakClass :=
  [⟨"at", ["aterm", "at"]⟩, ⟨"cr", ["cr"]⟩, ⟨"cl", ["close", "cl"]⟩, ⟨"ex", ["extend", "ex"]⟩,
    ⟨"fo", ["format", "fo"]⟩, ⟨"lf", ["lf"]⟩, ⟨"lo", ["lower", "lo"]⟩,
    ⟨"nu", ["numeric", "nu"]⟩, ⟨"le", ["oletter", "le"]⟩, ⟨"sc", ["scontinue", "sc"]⟩,
    ⟨"st", ["sterm", "st"]⟩, ⟨"se", ["sep", "se"]⟩, ⟨"sp", ["sp"]⟩, ⟨"up", ["upper", "up"]⟩]

def sentenceBreak : BreakProperty :=
  ⟨["sentencebreak", "sb"], sentenceBreakClasses, .ofRuns (readRuns 2 sentenceBreakRuns)⟩

def breakProperties : List BreakProperty :=
  [graphemeClusterBreak, wordBreak, sentenceBreak]

def BreakProperty.named? (name : String) : Option BreakProperty :=
  breakProperties.find? fun property => property.names.contains name

def BreakProperty.class? (property : BreakProperty) (name : String) : Option BreakClass :=
  property.classes.find? fun entry => entry.names.contains name

def BreakProperty.holds (property : BreakProperty) (entry : BreakClass) (c : Char) : Bool :=
  property.table.find? c.toNat == some entry.tag

end CallContract.Text
