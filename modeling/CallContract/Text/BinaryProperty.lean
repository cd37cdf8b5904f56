import CallContract.Text.LetterProperty

/-!
# Binary properties by name

Every yes-or-no property of characters that a pattern may ask for by name,
each with its long and its short names and the table of the characters that
have it.
-/

namespace CallContract.Text

structure BinaryProperty where
  names : List String
  table : RunTable Bool

def asciiHexDigitFlags : String :=
  "48n10y7n6y26n6y1114009n"

def bidiControlFlags : String :=
  "1564ny6641n2y26n5y55n4y1105814n"

def bidiMirroredFlags : String :=
  "40n2y18nyny28nyny29nyny45ny15ny3710n4y1885n2y2460n2y10n2y54n2y14n2y177ny192n4y3n6y3ny3n2y3n4yn
  4ynyny4n9y5nyn18y5n4y9n2ynyn8yn32y2n4y5ny9n2y2n19y5n2y9n5y2n2y4n24y2n16y8n4y20n2y7n2y1085n14y7
  4ny2n4yn2yn3y5n4y5n3y3n14y403n22y2n6yn14y8ny7n6y3ny4n5yn2y2n5y4nyn3y2n2y10n6y2n2y12n19yn4y2nyn
  y2nyn4y5n2y6n3y24n2y11n2y4n4yn2y2n2y4n43y2n8yn40y5nyny3n5y5n3y4ny3n5yny256ny515n4y3n2yn2y14n2y
  2n10y43n8y427n10y2n8y52797n6y5n2y162n2y18nyny28nyny29nynyn2yn2y55159ny57ny57ny57ny57ny993340n"

def caseIgnorableFlags : String :=
  "39ny6ny11ny35nyny71ny4nyny4ny2n2y503n192y4n2y4ny9n2yny251n7y207ny5ny49n45ynyn2yn2yny44ny11n6y1
  0n11yny35ny10n21y16ny101n8yn10yn4y33nyny30n27y91n11y58n11y4ny2ny24n24y43n3y44ny7n2y5n9y41n58y5
  5nyny4n8y4ny3n7y10n2y13ny15ny58ny4n4y8ny20n2y26ny2n2y57ny4n2y4n2y2n3y3ny30n2y3ny11n2y57ny4n5yn
  2y4ny20n2y22n6yny58ny2nyn4y8ny7n2y11n2y30ny61ny12ny50ny3ny55nyn3y5n3yn4y7n2y11n2y29ny58ny2ny6n
  y5n2y20n2y28n2y57n2y4n4y8ny20n2y29ny72ny7n3yny90ny2n7y11n9y98ny2n9y9nyn7y73n2y27nynyny55n14yn5
  yn2y5n11yn36y9ny102n4yn6yn2y2n2y25n2y4n3y16n4y13ny2n2y6ny15ny94ny608n3y946n3y29n2y30n2y30n2y64
  n2yn7y8ny2n11y3ny5ny45n5y51ny65n2y34ny118n3y4n2y9ny6n3y219n2y2ny58nyn7ynyny2n8y6n10y2ny39ny8n3
  1y49n4y48nyn5yny5ny40n9y12n2y32n4y2n2yn3y56nyn2y3nyn3y58n8y2n2y64n6y82n3yn13yn7y4ny6ny3n2y50n6
  3y13ny34n101y445nyn3y11n3y13n3y13n3y13n2y12n5y8n2y10ny2ny2n5y49n5yn10yny13ny16n13y51n33y2955n2
  y113n3y125ny15ny96n32y47ny469ny36n4y3n5y5ny93n6y93n3y28438ny1250n6y270ny98n4yn10yny28n4y80n2y1
  4n34y78ny23n3y103n3y3n2y8ny3ny4ny25n2y5ny151n2y26n18y13ny38n8y25n11y46n3y48ny2n4y2n2y17ny21n2y
  66n6y2n2y2n2y12ny8ny35ny11ny51nyn3y2n2y5n2yny27ny14n2y5n2yny100n5y9n3y121ny2ny4ny20272ny147n17
  y573n16y3ny12n16y34ny2ny169ny7ny6ny11ny35nyny47ny45n2y67ny21n3y513ny226ny149n5y1029n6yn42yn9y5
  82n3yn2y5n4y40n3y4ny165n2y573n4y38ny26n5yny315n2y79n4y70n11y49n4y123ny54n15y41ny2n2y10n3y49n4y
  2n2y2ny4ny10ny50n3y36n5yn8y62ny12n2y52n9y10n4y2ny95n3y2nyn2y6ny2ny157ny3n8y21n2y57n2y3ny37n7y3
  n5y70n6y13nynyny14n2y85n8y2n3yny23ny84n6yny4n2yn2y238n4y6n2yn2y27n2y85n8y2nyn2y106nyny2n6yny10
  1nyny2n4yn5y259n9yn2y256n2yny4ny144n4y2n2y4ny32n10y40n6y2n4y8ny9n6y2n3y46n13yn2y406n7yn6yny82n
  22y2n7yn2yn2y122n6y3nyn2yn7yny72n2y3nyny347n2y11n2y52n5y5nyny23ny5333n17y6n15y11464n12y3n3y249
  6n5y59n7y9n4y508n3y40n2y482ny63n17y64n2yn2y16395n4yn7yn2y3230n2yn4y4700n46y2n23y544n3y9n16y2n7
  y30n4y148n3y1979n55y4n50y8ny14ny22n5yn15y1360n7yn17y2n7yn2yn5y5n62y33ny160n14y368ny61n4y507n5y
  254n2y736n7y109n8y2735n5y789505ny30n96y128n240y196112n"

def casedFlags : String :=
  "65n26y6n26y47ny10ny4ny5n23yn31yn195yn4y4n208yn36y7n2y30n5y96ny42n4y2n2y2n4yny6nyn3ynyn20yn83yn
  139y8n166yn38y9n41y2839n38yny5ny2n43yn4y672n86y2n6y2178n11y5n43y2n3y64n192y64n278y2n6y2n38y2n6
  y2n8ynynynyn31y2n53yn7yny3n3yn7y3n4y2n6y4n13y5n3yn7y116ny13ny16n13y101ny4ny2n10yny3n5y6nynynyn
  4yn6y4ny2n4y5n5y4ny17n32y3n2y817n52y1814n229y6n4y3n2y12n38yny5ny30994n46y18n30y132n102y3n4yn62
  y2n2ynyn8y21n5yn3y821n43yn14y6n80y20288n7y12n5y1033n26y6n26y1189n80y96n36y4n36y116n11yn15yn7yn
  2yn11yn15yn7yn2y451ny2n3yn42yn9y1221n51y13n51y93n22y10n22y2842n64y21856n64y25984n85yn71yn2y2ny
  2n2y2n4yn12ynyn7yn65yn4y2n8yn7yn28yn4yn5yny3n7yn340y2n25yn25yn31yn25yn31yn25yn31yn25yn31yn25yn
  8y1844n10yn20y6n6y261n62y2194n68y2028n26y6n26y6n26y986742n"

def changesWhenCasefoldedFlags : String :=
  "65n26y90ny10n23yn8y32nynynynynynynynynynynynynynynynynynynynynynynynynynynyny2nynynynynynynyny
  n2ynynynynynynynynynynynynynynynynynynynynynynyn2ynynynyn2ynyn2yn3y2n4yn2yn3y3n2yn2ynynyn2yny2
  nyn2yn3ynyn2y3ny7n2yn2yn2ynynynynynynynyny2nynynynynynynynyny2n2ynyn3ynynynynynynynynynynynyny
  nynynynynynynynynynynynynynynynyny7n2yn2y2nyn4ynynynyny246ny42nyny3ny8ny6nyn3ynyn2yn17yn9y22ny
  12n3y3n2ynynynynynynynynynynynynyn2y2n2ynyn2y2n51y48nynynynynynynynynynynynynynynynyny9nynynyn
  ynynynynynynynynynynynynynynynynynynynynynynynyn2ynynynynynyny2nynynynynynynynynynynynynynynyn
  ynynynynynynynynynynynynynynynynynynynynynynynynynynynynynynynyny2n38y48ny2840n38yny5ny810n6y2
  178n10y6n43y2n3y320nynynynynynynynynynynynynynynynynynynynynynynynynynynynynynynynynynynynynyn
  ynynynynynynynynynynynynynynynynynynynynynynynynynynynynynynynynynynynynyny5n2y2nynynynynynyny
  nynynynynynynynynynynynynynynynynynynynynynynynynynynynynynynynynynynynynynynynynyny9n8y8n6y10
  n8y8n8y8n6y11nynynyny8n8y16n48y2n3y2n6y5n3y2n6y11n4y12n5y5n3y2n6y297ny3n2y6ny45n16y19ny818n26y
  1840n48y48nyn3y2nynynyn4yny2ny8n3ynynynynynynynynynynynynynynynynynynynynynynynynynynynynynyny
  nynynynynynynynynynynynynynynynynynyny8nyny4ny31053nynynynynynynynynynynynynynynynynynynynynyn
  yny19nynynynynynynynynynynynynyny135nynynynynynyny3nynynynynynynynynynynynynynynynynynynynynyn
  ynynynynynynynynyny10nynyn2ynynynyny4nyny2nyny3nynynynynynynynynynyn5yn5ynynynynynynynyn4ynyn2
  y3ny5nynynyny24ny890n80y20288n7y12n5y1033n26y1221n40y136n36y156n11yn15yn7yn2y1770n51y157n22y28
  74n32y21888n32y31392n34y988894n"

def changesWhenCasemappedFlags : String :=
  "65n26y6n26y58ny10n23yn31yn64yn84yn28y2n14y2n2yny4n93yn18y6n27yn2ynyn2y3n2yn4yn5y2nyn2y2ny7ny2n
  yn2y3n6y5ny10n2y166ny42n4y2n2y3n3yny6nyn3ynyn20yn47y3n33yn5yn133y8n166yn38y10n39y2840n38yny5ny
  2n43y2n3y672n86y2n6y2178n11y5n43y2n3y185ny3ny16ny113n156y2nyn118y2n6y2n38y2n6y2n8ynynynyn31y2n
  53yn7yny3n3yn7y3n4y2n6y4n13y5n3yn7y297ny3n2y6ny27ny17n32y3n2y817n52y1814n113yn2yn2y7n102y7n4y3
  n2y12n38yny5ny30994n46y18n28y134n14y2n62y9n15y3n3y2n5yn25yn30y2n2y4n7y24n2y860ny28n80y20288n7y
  12n5y1033n26y6n26y1189n80y96n36y4n36y116n11yn15yn7yn2yn11yn15yn7yn2y1731n51y13n51y93n22y10n22y
  2842n64y21856n64y31360n68y988860n"

def changesWhenLowercasedFlags : String :=
  "65n26y101n23yn7y33nynynynynynynynynynynynynynynynynynynynynynynynynynynyny2nynynynynynynyny2ny
  nynynynynynynynynynynynynynynynynynynynynynyn2ynyny3n2ynyn2yn3y2n4yn2yn3y3n2yn2ynynyn2yny2nyn2
  yn3ynyn2y3ny7n2yn2yn2ynynynynynynynyny2nynynynynynynynyny2n2ynyn3ynynynynynynynynynynynynynyny
  nynynynynynynynynynynynynynyny7n2yn2y2nyn4ynynynyny289nyny3ny8ny6nyn3ynyn2yn17yn9y35ny8nynynyn
  ynynynynynynynyny5ny2nyn2y2n51y48nynynynynynynynynynynynynynynynyny9nynynynynynynynynynynynyny
  nynynynynynynynynynynynynynyn2ynynynynynyny2nynynynynynynynynynynynynynynynynynynynynynynynyny
  nynynynynynynynynynynynynynynynynynynynynynyny2n38y2889n38yny5ny722n86y2195ny6n43y2n3y320nynyn
  ynynynynynynynynynynynynynynynynynynynynynynynynynynynynynynynynynynynynynynynynynynynynynynyn
  ynynynynynynynynynynynynynynynynynynynynynynynynyny9nynynynynynynynynynynynynynynynynynynynyny
  nynynynynynynynynynynynynynynynynynynynynynynynynynynyny9n8y8n6y10n8y8n8y8n6y11nynynyny8n8y24n
  8y8n8y8n8y8n5y11n5y11n4y12n5y11n5y297ny3n2y6ny45n16y19ny818n26y1840n48y48nyn3y2nynynyn4yny2ny8
  n3ynynynynynynynynynynynynynynynynynynynynynynynynynynynynynynynynynynynynynynynynynynynynynyn
  ynynyny8nyny4ny31053nynynynynynynynynynynynynynynynynynynynynynyny19nynynynynynynynynynynynyny
  ny135nynynynynynyny3nynynynynynynynynynynynynynynynynynynynynynynynynynynynynynyny10nynyn2ynyn
  ynyny4nyny2nyny3nynynynynynynynynynyn5yn5ynynynynynynynyn4ynyn2y3ny5nynynyny24ny22315n26y1221n
  40y136n36y156n11yn15yn7yn2y1770n51y157n22y2874n32y21888n32y31392n34y988894n"

def changesWhenTitlecasedFlags : String :=
  "97n26y58ny41n24yn8ynynynynynynynynynynynynynynynynynynynynynynynynynynynyny2nynynynynynynyn2yn
  ynynynynynynynynynynynynynynynynynynynynynyny2nynyn3y2nyny2ny3ny5ny2ny3n3y2ny2nynyny2ny4ny2ny3
  nyny2ny3nyny4nyn2yn2ynynynynynynynynyn2ynynynynynynynynyn3ynyny3nynynynynynynynynynynynynynyny
  nynynynyny3nynynynynynynynyny8ny2n2yny4nynynynyn6yn2ynyn2y3n2yn4yn5y2nyn2y2ny7ny2nyn2y3n6y5ny1
  0n2y166ny43nyny3ny3n3y18ny27n35yn2y3n3ynynynynynynynynynynynyn5yny2ny2ny52n48ynynynynynynynyny
  nynynynynynynynyny9nynynynynynynynynynynynynynynynynynynynynynynynynynyny2nynynynynynyn2ynynyn
  ynynynynynynynynynynynynynynynynynynynynynynynynynynynynynynynynynynynynynynynynynynynynyny49n
  39y3696n6y2178n9yny238ny3ny16ny114nynynynynynynynynynynynynynynynynynynynynynynynynynynynynyny
  nynynynynynynynynynynynynynynynynynynynynynynynynynynynynynynynynynynynynynynynynynynynyn7y5ny
  nynynynynynynynynynynynynynynynynynynynynynynynynynynynynynynynynynynynynynynynynynynynynynyn9
  y8n6y10n8y8n8y8n6y10n8y8n8y8n14y2n8y8n8y8n8y8n5yn2y6ny3n3yn2y8n4y2n2y8n8y10n3yn2y342ny33n16y4n
  y843n26y1862n48yny3n2ynynyny6ny2ny10nynynynynynynynynynynynynynynynynynynynynynynynynynynynyny
  nynynynynynynynynynynynynynynynynynynynyny8nyny4ny12n38yny5ny30995nynynynynynynynynynynynynyny
  nynynynynynynynyny19nynynynynynynynynynynynynyny135nynynynynynyny3nynynynynynynynynynynynynyny
  nynynynynynynynynynynynynynynynyny10nyny2nynynynyny4ny4nyn2y2nynynynynynynynynyny11nynynynynyn
  ynyny4nyny2ny3ny5nynyny26ny860ny28n80y20288n7y12n5y1065n26y1229n40y136n36y155n11yn15yn7yn2y179
  5n51y125n22y2874n32y21888n32y31394n34y988860n"

def changesWhenUppercasedFlags : String :=
  "97n26y58ny41n24yn8ynynynynynynynynynynynynynynynynynynynynynynynynynynynyny2nynynynynynynyn2yn
  ynynynynynynynynynynynynynynynynynynynynynyny2nynyn3y2nyny2ny3ny5ny2ny3n3y2ny2nynyny2ny4ny2ny3
  nyny2ny3nyny5n2yn2yn2ynynynynynynynyn2ynynynynynynynynyn2yn2yny3nynynynynynynynynynynynynynyny
  nynynynyny3nynynynynynynynyny8ny2n2yny4nynynynyn6yn2ynyn2y3n2yn4yn5y2nyn2y2ny7ny2nyn2y3n6y5ny1
  0n2y166ny43nyny3ny3n3y18ny27n35yn2y3n3ynynynynynynynynynynynyn5yny2ny2ny52n48ynynynynynynynyny
  nynynynynynynynyny9nynynynynynynynynynynynynynynynynynynynynynynynynynyny2nynynynynynyn2ynynyn
  ynynynynynynynynynynynynynynynynynynynynynynynynynynynynynynynynynynynynynynynynynynynynyny49n
  39y2888n43y2n3y760n6y2178n9yny238ny3ny16ny114nynynynynynynynynynynynynynynynynynynynynynynynyn
  ynynynynynynynynynynynynynynynynynynynynynynynynynynynynynynynynynynynynynynynynynynynynynynyn
  ynynyn7y5nynynynynynynynynynynynynynynynynynynynynynynynynynynynynynynynynynynynynynynynynynyn
  ynynynynyn9y8n6y10n8y8n8y8n6y10n8y8n8y8n14y2n53yn2y4nyny3n3yn2y4ny3n4y2n2y8n8y10n3yn2y4ny337ny
  33n16y4ny843n26y1862n48yny3n2ynynyny6ny2ny10nynynynynynynynynynynynynynynynynynynynynynynynyny
  nynynynynynynynynynynynynynynynynynynynynynynynyny8nyny4ny12n38yny5ny30995nynynynynynynynynyny
  nynynynynynynynynynynynyny19nynynynynynynynynynynynynyny135nynynynynynyny3nynynynynynynynynyny
  nynynynynynynynynynynynynynynynynynynynyny10nyny2nynynynyny4ny4nyn2y2nynynynynynynynynyny11nyn
  ynynynynynyny4nyny2ny3ny5nynyny26ny860ny28n80y20288n7y12n5y1065n26y1229n40y136n36y155n11yn15yn
  7yn2y1795n51y125n22y2874n32y21888n32y31394n34y988860n"

def dashFlags : String :=
  "45ny1372ny51ny3649ny1029ny2057n6y61ny39ny15ny390ny3076ny2ny31n2y4ny28ny446ny19ny111ny52624n2y3
  7ny10ny169ny3680ny318ny1044818n"

def deprecatedFlags : String :=
  "329ny1321ny2307nyny2089n2y2245n6y697n2y908502ny196606n"

def diacriticFlags : String :=
  "94nyny71ny6ny4ny2n2y503n159yn8y5n6y17n2y4ny9n2y253n5y209ny55n17yn27ynyn2yny134n8y4n2y134n2y4n2
  y3n3y67n27y91n11y58n11y34n2y126n8y41n10y16n28y61ny16ny3n4y28ny74ny16ny110ny16ny110ny16ny47n3y6
  0ny16ny7ny119ny110ny16ny110ny16ny109n2y16ny124ny111ny12n6yny107ny13n5y75n2y27nynyny4n2y66n3yn2
  y62ny112nyn2y40n2y4n5y25n7yny10n2y705n3y948n2y30ny148n11y9ny347n3y292ny20n8y2ny48n15y2n11y104n
  y15ny38n9y54n2y58ny11n2y66n2y64n6y82n25y4ny6ny2n3y50n63y89n12y37n11y445nyn3y11n3y13n3y13n3y13n
  2y3312n3y317ny506n6y105n4y95ny30066ny12n2yny28n2y82n2y14n34y102n3y109n2y12ny37ny151ny27n18y57n
  4y36ny95ny12ny36ny149n3y65n4y51ny100n5y9n3y128n2y20272ny769n16y270nyny47ny45n2y67ny764ny1183n6
  yn42yn9y637n3y4ny165n2y571n6y38ny26n5y399n3y70n11y49n4y192ny41ny72n2y120n2y62ny76ny9n3y104n2y1
  78n2y80n2y16ny24n7y3n5y89n3yn2y13n2y95ny3ny123n2y251n2y126ny118n2y115ny269n2y258n2y4ny156ny83n
  y18ny81ny421ny258nyn2y81ny425n2y23ny5356n15y11481ny2496n5y59n7y564n2y546n17y80n2y16382n4yn7yn2
  y7937n46y2n23y544n3y3n6y8n8y2n7y30n4y3714n62y194n7y375ny61n4y766n2y736n7y109n3yn3y988853n"

def emojiFlags : String :=
  "35ny6ny5n10y111ny4ny8077ny12ny216ny22ny90n6y15n2y367n2y12ny166ny25n11y4n3y199ny231n2y10ny9ny58
  n4yn5y9ny2ny2n2y2ny4ny2nyn2y2ny3ny3n2y8n3y5nyny5n12y11n2y2nyn2yny18ny2n2y18n6ynyn2y3n2y5ny2n2y
  4n2y11n2y5n2y2ny5n2ynyn2y20n2y5n6yn4y2ny4ny2ny2n6yny2nynyny6ny3ny6ny10n2y15ny2ny4nyny4n3yny11n
  2y48n3y9ny14ny14ny372n2y463n3y19n2y51ny4ny1242ny12ny601nyny114026ny202ny160n2y12n2y14ny2n10y75
  n26yn2y23ny20ny2n9y21n2y174n34y2n112y2n2yn3y2n83y2n3yn263yn63y11n6yn24y7n2y2n8y12ny2n4y2ny4n2y
  13n2y2ny8n2y9ny5n3y12n3y8n3y2nyny4ny6ny3ny6n86y48n70y5n8y2n3y4n10y3nyn2y3ny2n10y227n12y4ny283n
  47yn10yn185y112n13y3n10y5n56y7n15y2n11y6n9y984327n"

def emojiComponentFlags : String :=
  "35ny6ny5n10y8147ny213ny56619ny62422n26y507n5y1456n4y788076n96y196480n"

def emojiModifierFlags : String :=
  "127995n5y986112n"

def emojiModifierBaseFlags : String :=
  "9757ny219ny16n4y117879ny60n3y2ny2n3y117n2y2n11y21n19y3ny4n3yn3y7nyny24ny201n2y4ny21ny4n2y174n3
  y3n5y83ny16n3y9ny11ny575ny2ny8n8y6ny9n10y2n3y56ny61n2yn2yny17n3yn13y229n3y42n9y984327n"

def emojiPresentationFlags : String :=
  "8986n2y205n4y3ny2ny521n2y21n2y50n12y43ny19ny13ny8n2y17n2y5n2y8ny5ny21ny7n2yny4ny2ny7ny4n2y28ny
  35nyny4n3yny61n3y24ny14ny859n2y51ny4ny115886ny202ny190ny2n10y75n26yny24ny20ny2n5yn3y21n2y174n3
  3y12n9yn70yn22y12n43y4n5y12n17y3ny3n71ynyn187y2n63y13n4yn24y18ny26n2y13ny86n85y48n70y6ny3n3y2n
  3y4n4y11n2y7n9y227n12y4ny283n47yn10yn185y112n13y3n10y5n56y7n15y2n11y6n9y984327n"

def extendedPictographicFlags : String :=
  "169ny4ny8077ny12ny216ny22ny90n6y15n2y367n2y12ny95ny70ny25n11y4n3y199ny231n2y10ny9ny58n4yn6yn12
  yn114y10n118y2n11ynyny6ny3ny6ny10n2y15ny2ny4nyny4n3yny11n5y45n3y9ny14ny14ny372n2y463n3y19n2y51
  ny4ny1242ny12ny601nyny114022n256y13n3y31ny60n6y12n2y14ny2n10y18n57y27n15y10ny20ny2n9yn4y9n434y
  5n318y8n266y48n128y116n12y85n43y12n4y56n8y10n6y40n8y30n82y12n47yn10yn441y256n1022y983042n"

def extenderFlags : String :=
  "183ny536n2y878ny441ny630ny137ny89ny752ny127ny2371ny56ny611ny398ny68ny5001ny43n5y103n2y93n3y284
  38ny1526ny962ny22ny137ny108ny21n2y21627ny2064n2y1483ny27ny4ny1223ny293ny116n2y498n3y1231ny2064
  9n2y1180n2yny29016n2y1201ny852n3y988857n"

def graphemeBaseFlags : String :=
  "32n95y33n13yn594y112n8y2n6y4n7ynyn20yn224y7n166yn38y2n50y2n3y46nyny2ny2ny9n27y4n6y17n10y11nyn4
  6y21n16yn101y8ny6n2y2ny4n32y2nyn30y29n89y11ny14n43y9n7y3n24y4ny9ny3ny7n15yn25y5nyn11y5n31y17n4
  2y57n55ynyn4y8n4yn3y7n10y2n29yn2yn8y2n2y2n22yn7yny3n4y3nyn2y6n2y2n2yny13n2yn3y4n24y5nyn6y4n2y2
  n22yn7yn2yn2yn2y4n3y24n4yny7n10y2n3yny12nyn9yn3yn22yn7yn2yn5y3n4y8nyn2y3ny15n2y4n12y7ny8n2yn8y
  2n2y2n22yn7yn2yn5y3ny2ny6n2y2n2y15n2yn3y4n18y11nyn6y3n3yn4y3n2ynyn2y3n2y3n3y3n12y5nyn2y3n3yn3y
  3ny21n21y6n3yn8yn3yn23yn16y3ny3n4y19n3y2ny2n2y4n10y7n10yn11yn3yn23yn10yn5y3n2y2nyn2y24n2yn2y4n
  10yn3y14n11yn3yn41y2nyn2y5n3yn3yn2y4n3yn10y4n26y2n2yn18y3n24yn9yny2n7y9n2y6n7y7n10y2n3y12n48yn
  2y11n8y8n13y37n2ynyn5yn24ynyn10yn2y9ny2n5yny9n10y2n4y32n24y2n27ynynyn14yn36y18ny5ny2n5y49n8yn6
  yn13y37n45y4ny6ny2n2y2n25y2n4y3n16y4n13yn2y2n6yn15yn40yny5ny2n377yn4y2n7ynyn4y2n41yn4y2n33yn4y
  2n7ynyn4y2n15yn57yn4y2n67y5n29y3n26y6n86y2n6y2n669y3n89y7n18y13n19y3n2y9n18y14n13yn3y15n52y2ny
  7n8yn2y11n9y3n10y6n10y6n11y5n10y6n89y7n5y2n34yny5n70y10n31y4n4y2n3y4n2yn6y7ny3n42y2n5y11n44y4n
  26y6n11y3n57y2n2y3n56yny9nyn2y8n6y13n10y6n10y6n14y86n48y10n4y3n8yn29y9n12y2n32y4n2y6n56yny2n3y
  ny13n48y8n2y5n15y3n62y5n43y2n11y11ny13ny7n4yn6yn3y2ny5n192y64n278y2n6y2n38y2n6y2n8ynynynyn31y2
  n53yn15yn14y2n6yn19y2n3yn9yn11y5n24y7n49y16n2y2n27yn13y3n33y63n140y4n666y22n11y21n1812y2n32yn3
  44y3n2y5n45yny5ny2n56y7n2y15n23y9n7yn7yn7yn7yn7yn7yn7yn7y33n94y34n26yn89y12n214y26n58y6n16yn86
  y4n101y5n43yn94yn86y9n48yn29293y3n55y9n348y20n47y4ny10n32y2n80y2n6y8n206y2n2ynyn8y21n16yn3yn4y
  n25y2n5y4n10y6n56y8n68y10n12y24n13yn38y8n25y11ny12n30y6n48yn2y4n2y2n2yn13yn11y4n7yn25yn41y6n2y
  2n2y11n3yn8yny2n10y2n32yn51yny3n2y2n5y2nyny24n17y2n8y11n6y2n6y2n6y9n7yn7yn60y4n117yn2yn4y3n10y
  6n11172y12n23y4n49y8452n366y2n106y38n7y12n5y5nyn24yn5ynyn2yn2yn125y16n445y2n54y7ny32n16y16n10y
  22n35yn19yn4y4n5yn135y4n157y2n31y3n6y2n6y2n6y2n3y3n7yn7y13n2y2n12yn26yn19yn2yn15y2n14y34n123y5
  n3y4n45y3n88yn13y3ny47n45y131n29y3n49y16n27y4n36y9n30y5n38y10n30yn37y4n14y42n158y2n10y6n36y4n3
  6y4n40y8n52y11n12yn15yn7yn2yn11yn15yn7yn2y3n52y12n311y9n22y10n8y24n6yn42yn9y69n6y2nyn44yn2y3ny
  2n23yn72y8n9y48n19yn2y5n33y3n27y5ny64n56y4n20y2n47y15n4yn3yn29y10n9y7n9y7n64y32n37y6n12y9n54y3
  n29y2n27y5n26y7n4y12n7y80n73y55n51y13n51y7n42y12n10y6n38y8n24y8n2y208n31yn42y3ny2n2y16n3y59n40
  y8n22y11n9y22n18y4n4y38n28y20n23y9nyn54y15n7y4n30yn2y2ny12n49y4n2y2n2yn4y14n25y7n10y9n36y5ny9n
  18y8n35yn3y11n52y9nyn8y4n2yn16yn20y11n18yn28y3n2y4n6yn2y63n7ynyn4yn15yn11y6n47yn3y13n10y8n2yn8
  y2n2y2n22yn7yn2yn5y3nynyn4y2n2y2n2y3ny12n7y28n10yny2nyn38ynyn2y15nyn2y3nyn3yn2y39n56y8n2y3nyn2
  1ynyn3y30n48yn2y6nyn2yny2ny2n4y8n10y166n47yn2y6n4y2ny2n27y36n51y8n2yny2n4y11n10y6n13y19n43ynyn
  2y8n2y6n10y6n20y28n27y3nyn2y4ny9n23y185n47y9ny2ny100n83y12n8y2ny2n8yn2yn24yn5yn2y6n4yn3y9n10y7
  0n8y2n42y8n4yn4y27ny10n40y6n2y4n8y9ny6n2y3n46y13ny2n9y13n73y7n10y182n34y14n10y6n9yn38y14nyn6y1
  0n29y3n32y25ny7ny2ny75n7yn2yn38y21ny9n10y6n6yn2yn37y4n2ynyny7n10y310n19y2n4y9n15yn36y8n2y3n23y
  86ny15n50y13n923y102n111yn5y11n196y2636n99y13n1072y17n6y25n3995y5n583y6841n30y12n3y3n10y1734n5
  69y7n31yn10y4n81yn10y6n30y7ny10n48y7n15y10n10yn7yn21y5n19y432n58y198n91y101n75y5n56y11n13y64n4
  y28n6136y8n1238y41n10y8935n4yn7yn2yn291y15ny29n3y2ny14n4y8n396y2308n107y5n13y3n9y7n10y2ny2ny39
  36n250y6n436y156n116y60n246y10n39y2n60y5n3y22n2y7n30y4n61y21n66y3ny122n20y12n20y12n87y9n25y135
  n85yn71yn2y2ny2n2y2n4yn12ynyn7yn65yn4y2n8yn7yn28yn4yn5yny3n7yn340y2n292y2n562y55n4y50n8yn14yn7
  y1140n31y6n6y261n62y146n45y10n7y2n10y4n2y320n30y18n44y4n10y5ny464n28y4n10y214n30y2n11y4ny480n7
  yn4yn2yn15yn197y2n9y48n68y7ny4n10y4n2y785n68y76n61y194n4yn27yn2yny2nyn10yn4ynyny6ny4nynynyn3yn
  2yny2nynynynynyn2yny2n4yn7yn4yn4ynyn10yn17y5n3yn5yn17y52n2y270n44y4n100y12n15y2n15yn15yn37y10n
  174y56n29y13n44y4n9y7n2y14n6y154n984y4n17y3n13y3n119y4n95y6n12y4ny15n12y4n56y8n10y6n40y8n30y2n
  12y4n2y62n340y12n14y2n13y3n10y5n56y7n15y2n11y6n9y7n147yn102y1030n42720y32n4154y6n222y2n5762y14
  n7473y15n622y2466n542y1506n4939y5n4192y908368n"

def graphemeLinkFlags : String :=
  "2381ny127ny127ny127ny127ny127ny127ny127ny109n2y16ny124ny111ny127ny201ny180n2y1753n2y30ny157ny6
  53ny227ny101n2y70n2y4491ny31366ny37ny151ny142ny108ny309ny246ny24145ny1542ny41ny14ny57ny121n2y1
  39ny116ny180ny98ny128n3y113ny127ny252ny127ny118ny116ny269ny259n2y161ny83ny18ny81ny421ny260n2y8
  1ny425n2y16876ny1023696n"

def hexDigitFlags : String :=
  "48n10y7n6y26n6y65193n10y7n6y26n6y1048761n"

def hyphenFlags : String :=
  "45ny127ny1244ny4731ny2057n2y3589ny739ny52583ny169ny87ny1048730n"

def idsBinaryOperatorFlags : String :=
  "12272n2y2n10y497ny1101328n"

def idsTrinaryOperatorFlags : String :=
  "12274n2y1101836n"

def idsUnaryOperatorFlags : String :=
  "12286n2y1101824n"

def idCompatMathContinueFlags : String :=
  "178n2y5ny8118ny3n11yn15y371ny4ny22ny111778ny25ny31ny25ny31ny25ny31ny25ny31ny25ny993340n"

def idCompatMathStartFlags : String :=
  "8706ny4ny22ny111778ny25ny31ny25ny31ny25ny31ny25ny31ny25ny993340n"

def idContinueFlags : String :=
  "48n10y7n26y4nyn26y47ny10nyny2ny5n23yn31yn458y4n12y14n5y7nyny17n117yn2y2n4yny6n5ynyn20yn83yn139
  yn5y2n166yn38y2ny6n41y8n45ynyn2yn2yny8n27y4n4y29n11y5n74y4n102yn8y2n10yn19y2ny16n59y2n101y14n5
  4y4ny2ny2n46y18n28y4n11y5n24yn6y8n75yn129y2n10yn19yn8y2n2y2n22yn7yny3n4y2n9y2n2y2n4y8ny4n2yn5y
  2n12y10nyny2n3yn6y4n2y2n22yn7yn2yn2yn2y2nyn5y4n2y2n3y3ny7n4yny7n16y11n3yn9yn3yn22yn7yn2yn5y2n1
  0yn3yn3y2ny15n4y2n10y9n7yn3yn8y2n2y2n22yn7yn2yn5y2n9y2n2y2n3y7n3y4n2yn5y2n10yny16n2yn6y3n3yn4y
  3n2ynyn2y3n2y3n3y3n12y4n5y3n3yn4y2ny6ny14n10y16n13yn3yn23yn16y2n9yn3yn4y7n2yn3y2ny2n4y2n10y16n
  4yn8yn3yn23yn10yn5y2n9yn3yn4y7n2y6n2yn4y2n10yn3y12n13yn3yn51yn3yn5y5n4y7n5y2n10y10n6yn3yn18y3n
  24yn9yny2n7y3ny4n6ynyn8y6n10y2n2y13n58y5n15yn10y39n2ynyn5yn24ynyn23y2n5ynyn7yn10y2n4y32ny23n2y
  6n10y11nynyny4n10yn36y4n20yn18yn36y9ny57n74y6n78y2n38yny5ny2n43yn333yn4y2n7ynyn4y2n41yn4y2n33y
  n4y2n7ynyn4y2n15yn57yn4y2n67y2n3y9n9y14n16y16n86y2n6y3n620y2n17yn26y5n75y3n11y7n22y9n22y11n20y
  12n13yn3yn2y12n84y3ny4n2y2n10y33n3yn11y6n89y7n43y5n70y10n31yn12y4n12y10n40y2n5y11n44y4n26y6n11
  y37n28y4n63yn29y2n11y6n10y13ny8n14yn16y49n77y3n10y17n9y12n116y12n56y8n10y3n49y2n11y5n43y2n3y16
  n3yn39y5n534y2n6y2n38y2n6y2n8ynynynyn31y2n53yn7yny3n3yn7y3n4y2n6y4n13y5n3yn7y15n2y49n2y19ny28n
  y13ny16n13y51n13y4ny3n12y17ny4ny2n10yny2n6y6nynynyn16y2n4y5n5y4ny17n41y2679n229y6n9y12n38yny5n
  y2n56y7ny15n24y9n7yn7yn7yn7yn7yn7yn7yn7yn32y517n3y25n15yn5y2n5y4n86y2n7yn95y5n43yn94y17n32y48n
  16y512n6592y64n22157y67n46y2n269y3n28y20n48y4n10yn115y37n9y2n103y2n67y2n2ynyn8y21n54y4ny19n52y
  12n70y10n10y6n24y3nyn49y2n36y12n29y3n65y14n11y6n31yn55y9n14y2n10y6n23y3n73y24n3y2n16y2n5y10n6y
  2n6y2n6y9n7yn7yn43yn14y6n123yn2y2n10y6n11172y12n23y4n49y8452n366y2n106y38n7y12n5y5n12yn13yn5yn
  yn2yn2yn108y33n363y18n64y2n54y40n12y4n16y16n16y3n2y24n3y32n5yn135y19n10y7n26y4nyn26y10n90y3n6y
  2n6y2n6y2n3y35n12yn26yn19yn2yn15y2n14y34n123y69n53y136ny130n29y3n49y15ny31n32y13n30y5n43y5n30y
  2n36y4n8yn5y42n158y2n10y6n36y4n36y4n40y8n52y12n11yn15yn7yn2yn11yn15yn7yn2y3n52y12n311y9n22y10n
  8y24n6yn42yn9y69n6y2nyn44yn2y3ny2n23y10n23y9n31y65n19yn2y10n22y10n26y70n56y6n2y64n4yn2y5n8yn3y
  n29y2n3y4ny32n29y3n29y35n8yn30y25n54y10n22y10n19y13n18y110n73y55n51y13n51y13n40y8n10y6n38y3n5y
  n23y250n42yn2y3n2y16n3y55n33y10ny8n33y31n22y42n21y27n23y9n71y31n16y9n60y7ny13n25y7n10y6n53yn10
  y4n4y8n36y2ny9n69y4n4yn13yny35n18yn37y6n4y62n7ynyn4yn15yn10y7n59y5n10y6n4yn8y2n2y2n22yn7yn2yn5
  yn10y2n2y2n3y2ny6ny5n7y2n7y3n5y11n10yny2nyn38yn10yny2nyn4yn8y13n2y29n75y5n10y4n4y30n70yny8n10y
  166n54y2n9y23n6y34n65y3ny11n10y38n57y7n10y6n20y28n27y2n15y4n10y6n7y185n59y101n74y21n8y2ny2n8yn
  2yn30yn2y2n9y12n10y70n8y2n46y2n8yn2y27n63y8ny8n74y3ny18n73y199n33y15n10y6n9yn45yn9y15n10y24n30
  y2n22yn14y73n7yn2yn44y3nyn2yn9y8n10y6n6yn2yn37yn2yn6y7n10y310n23y9n17yn41y3n5y13n11y85ny79n922
  y102n111y17n196y2636n97y15n1072y16n22y10n3995y5n583y6841n58y1734n569y7n31yn10y6n79yn10y6n30y2n
  5y11n55y9n4y12n10y9n21y5n19y432n45y3n10y198n64y128n75y4n57y7n17y64n2yn2y11n2y14n6136y8n1238y41
  n10y8935n4yn7yn2yn291y15ny29n3y2ny14n4y8n396y2308n107y5n13y3n9y7n10y3n2y4177n10y518n46y2n23y54
  2n5y3n6y8n8y2n7y30n4y148n3y443n85yn71yn2y2ny2n2y2n4yn12ynyn7yn65yn4y2n8yn7yn28yn4yn5yny3n7yn34
  0y2n25yn25yn31yn25yn31yn25yn31yn25yn31yn25yn8y2n50y512n55y4n50y8ny14ny22n5yn15y1104n31y6n6y213
  n7yn17y2n7yn2yn5y5n62y33ny112n45y3n14y2n10y4ny321n31y17n58y470n42y214n43y485n7yn4yn2yn15yn197y
  11n7y41n76y4n10y1190n4yn27yn2yny2nyn10yn4ynyny6ny4nynynyn3yn2yny2nynynynynyn2yny2n4yn7yn4yn4yn
  yn10yn17y5n3yn5yn17y3380n10y1030n42720y32n4154y6n222y2n5762y14n7473y15n622y2466n542y1506n4939y
  5n4192y712016n240y196112n"

def idStartFlags : String :=
  "65n26y6n26y47ny10ny4ny5n23yn31yn458y4n12y14n5y7nyny129n5yn2y2n4yny6nyn3ynyn20yn83yn139y8n166yn
  38y2ny6n41y71n27y4n4y45n43y35n2yn99yny15n2y7n2y10n3y2ny16nyn30y29n89y11ny24n33y9n2y4ny5n22y4ny
  9ny3ny23n25y7n11y5n24yn6y17n42y58n54y3ny18ny7n10y15n16y4n8y2n2y2n22yn7yny3n4y3ny16ny13n2yn3y14
  n2y10ny8n6y4n2y2n22yn7yn2yn2yn2y31n4yny19n3y16n9yn3yn22yn7yn2yn5y3ny18ny15n2y23ny11n8y2n2y2n22
  yn7yn2yn5y3ny30n2yn3y15ny17nyn6y3n3yn4y3n2ynyn2y3n2y3n3y3n12y22ny52n8yn3yn23yn16y3ny26n3y2ny2n
  2y30ny4n8yn3yn23yn10yn5y3ny31n2yn2y15n2y17n9yn3yn41y2ny16ny5n3y8n3y24n6y5n18y3n24yn9yny2n7y58n
  48yn2y12n7y58n2ynyn5yn24ynyn10yn2y9ny2n5yny21n4y32ny63n8yn36y27n5y115n43y20ny16n6y4n4y3ny3n2y7
  n3y4n13y12ny17n38yny5ny2n43yn333yn4y2n7ynyn4y2n41yn4y2n33yn4y2n7ynyn4y2n15yn57yn4y2n67y37n16y1
  6n86y2n6y3n620y2n17yn26y5n75y3n11y7n18y13n19y14n18y14n13yn3y15n52y35ny4ny67n89y7n41yny5n70y10n
  31y49n30y2n5y11n44y4n26y54n23y9n53y82ny93n47y17n8y54n30y13n2y10n44y26n36y41n3y10n36y2n11y5n43y
  2n3y41n4yn6yn2y3ny5n192y64n278y2n6y2n38y2n6y2n8ynynynyn31y2n53yn7yny3n3yn7y3n4y2n6y4n13y5n3yn7
  y116ny13ny16n13y101ny4ny2n10yny2n6y6nynynyn16y2n4y5n5y4ny17n41y2679n229y6n4y3n2y12n38yny5ny2n5
  6y7ny16n23y9n7yn7yn7yn7yn7yn7yn7yn7y550n3y25n9y7n5y2n5y4n86y4n5yn90yn4y5n43yn94y17n32y48n16y51
  2n6592y64n22157y67n46y2n269y3n16y10n2y20n47y16n31y2n80y39n9y2n103y2n67y2n2ynyn8y21n16yn3yn4yn2
  3y29n52y14n50y62n6y3nyn2y11n28y10n23y25n29y7n47y28ny16n5yn10y10n5yn41y23n3yn8y20n23y3ny3n50yny
  3n2y2n5y2nyny24n3y2n11y7n3y12n6y2n6y2n6y9n7yn7yn43yn14y6n115y29n11172y12n23y4n49y8452n366y2n10
  6y38n7y12n5y5nyn10yn13yn5ynyn2yn2yn108y33n363y18n64y2n54y40n12y116n5yn135y36n26y6n26y11n89y3n6
  y2n6y2n6y2n3y35n12yn26yn19yn2yn15y2n14y34n123y69n53y267n29y3n49y47n32y13n30y5n38y10n30y2n36y4n
  8yn5y42n158y18n36y4n36y4n40y8n52y12n11yn15yn7yn2yn11yn15yn7yn2y3n52y12n311y9n22y10n8y24n6yn42y
  n9y69n6y2nyn44yn2y3ny2n23y10n23y9n31y65n19yn2y10n22y10n26y70n56y6n2y64ny15n4yn3yn29y42n29y3n29
  y35n8yn28y27n54y10n22y10n19y13n18y110n73y55n51y13n51y13n36y38n28y9n23y250n42y6n2y16n3y59n29y10
  ny8n22y42n18y46n21y27n23y12n53y57n2y2ny13n45y32n25y26n36y29ny2ny8n35y3ny12n48y14n4y21nyny35n18
  yn25y19n2y63n7ynyn4yn15yn10y7n47y38n8y2n2y2n22yn7yn2yn5y3ny18ny12n5y30n10yny2nyn38yny25nyny44n
  53y18n4y20n3y30n48y20n2yny184n47y41n4y36n48y20ny59n43y13ny71n27y37n7y185n44y116n64y31n8y2ny2n8
  yn2yn24y15nyny94n8y2n39y16nyny28ny10n40y7ny21ny11n46y19ny18n73y199n33y31n9yn37y17ny49n30y112n7
  yn2yn38y21ny25n6yn2yn32y14ny327n19y15nyn13yn34y124ny79n922y102n111y17n196y2636n97y15n1072y17n6
  y25n3995y5n583y6841n30y1762n569y7n31y17n79y17n30y18n48y16n4y31n21y5n19y432n45y211n64y128n75y5n
  y66n13y64n2yny28n6136y8n1238y41n10y8935n4yn7yn2yn291y15ny29n3y2ny14n4y8n396y2308n107y5n13y3n9y
  7n10y5990n85yn71yn2y2ny2n2y2n4yn12ynyn7yn65yn4y2n8yn7yn28yn4yn5yny3n7yn340y2n25yn25yn31yn25yn3
  1yn25yn31yn25yn31yn25yn8y1844n31y6n6y261n62y146n45y10n7y16ny321n30y18n44y484n28y228n30y2ny495n
  7yn4yn2yn15yn197y59n68y7ny1204n4yn27yn2yny2nyn10yn4ynyny6ny4nynynyn3yn2yny2nynynynynyn2yny2n4y
  n7yn4yn4ynyn10yn17y5n3yn5yn17y4420n42720y32n4154y6n222y2n5762y14n7473y15n622y2466n542y1506n493
  9y5n4192y908368n"

def ideographicFlags : String :=
  "12294n2y25n9y14n3y965n6592y64n20992y22784n366y2n106y29962ny27n6136y8n1238y41n10y9319n396y19716
  n42720y32n4154y6n222y2n5762y14n7473y15n622y2466n542y1506n4939y5n4192y908368n"

def joinControlFlags : String :=
  "8204n2y1105906n"

def logicalOrderExceptionFlags : String :=
  "3648n5y123n5y2800n3y2ny37114n2y2nyn2y1070403n"

def lowercaseFlags : String :=
  "97n26y47ny10ny4ny36n24yn8ynynynynynynynynynynynynynynynynynynynynynynynynynynynyn2ynynynynynyn
  ynyn2ynynynynynynynynynynynynynynynynynynynynynynyny2nynyn3y2nyny2ny3n2y4ny2ny3n3y2ny2nynyny2n
  yn2yny2ny3nyny2n2y2n3y6ny2ny2nynynynynynynynyn2ynynynynynynynynyn2y2nyny3nynynynynynynynynynyn
  ynynynynynynynynynynynynynynynynynynyn7y2ny2n2yny4nynynynyn69yn36y7n2y30n5y96ny43nyny3ny2n4y18
  ny27n35yn2y3n3ynynynynynynynynynynynyn5yny2ny2n2y51n48ynynynynynynynynynynynynynynynynyny9nyny
  nynynynynynynynynynynynynynynynynynynynynynynynyny2nynynynynynyn2ynynynynynynynynynynynynynyny
  nynynynynynynynynynynynynynynynynynynynynynynynynynynynynynynynynyny48n41y2887n43yn4y760n6y217
  8n9yny117n192y65nynynynynynynynynynynynynynynynynynynynynynynynynynynynynynynynynynynynynynyny
  nynynynynynynynynynynynynynynynynynynynynynynynynynynynynynynynynynynyn9ynynynynynynynynynynyn
  ynynynynynynynynynynynynynynynynynynynynynynynynynynynynynynynynynynynynynyn9y8n6y10n8y8n8y8n6
  y10n8y8n8y8n14y2n8y8n8y8n8y8n5yn2y6ny3n3yn2y8n4y2n2y8n8y10n3yn2y121ny13ny16n13y109ny3n2y3ny27n
  y4ny4ny2n2y8n4y4ny33n16y4ny843n26y1862n48yny3n2ynynyny4nyn2yn8y3nynynynynynynynynynynynynynyny
  nynynynynynynynynynynynynynynynynynynynynynynynynynynynynynynynynynyn2y7nyny4ny12n38yny5ny3099
  5nynynynynynynynynynynynynynynynynynynynynynyny19nynynynynynynynynynynynynyn3y133nynynynynynyn
  3ynynynynynynynynynynynynynynynynynynynynynynynynynynynynynynyn10ynyny2nynynynyny4nyny2nyn3yny
  nynynynynynynynyny5ny5nynynynynynynyny4nyny2ny3nynynynynyny22n3ynyn3y821n43yn14y6n80y20288n7y1
  2n5y1065n26y1229n40y136n36y155n11yn15yn7yn2y451ny2n3yn42yn9y1285n51y125n22y2874n32y21888n32y26
  010n26y26n7yn18y26n26y26n4ynyn7yn11y26n26y26n26y26n26y26n26y26n26y26n26y26n26y26n26y26n28y28n2
  5yn6y26n25yn6y26n25yn6y26n25yn6y26n25yn6yny1844n10yn20y6n6y261n62y2228n34y988860n"

def mathFlags : String :=
  "43ny16n3y31ny29nyny45ny4ny37ny31ny728n3y2ny26n2y2n3y527n3y6669ny27n3y11ny3ny13ny14n4y21n5y11n5
  y65n13y4ny3n2y4n5y18ny4ny2n10yny2n6y6ny3n2y2n2yn3yn6y3n14yny68n24yn6yn2y4n2y4n32yny6n2y14n268y
  8n4y20n2y90ny30n27yny24ny11n7y445n2y12n10y4n6y4n2y2n2y3n5y14nyny2n6y11n8y5n2y57nyny29n4y9n3y33
  6n64y256n512y48n21y2n6y53212ny823n6yny162ny16n3y29nyny29nyny131ny6n4y3489n2y50800n85yn71yn2y2n
  y2n2y2n4yn12ynyn7yn65yn4y2n8yn7yn28yn4yn5yny3n7yn340y2n292y2n50y5632n4yn27yn2yny2nyn10yn4ynyny
  6ny4nynynyn3yn2yny2nynynynynyn2yny2n4yn7yn4yn4ynyn10yn17y5n3yn5yn17y52n2y987406n"

def modifierCombiningMarkFlags : String :=
  "1620n2y2ny131ny6ny3n2y481n2yn3y3ny31ny1111820n"

def noncharacterCodePointFlags : String :=
  "64976n32y526n2y65534n2y65534n2y65534n2y65534n2y65534n2y65534n2y65534n2y65534n2y65534n2y65534n2
  y65534n2y65534n2y65534n2y65534n2y65534n2y65534n2y"

def otherAlphabeticFlags : String :=
  "837ny29n13y576n14ynyn2yn2yny72n11y48n13yn7y16ny101n7y4n4y2n2y4ny35ny30n16y102n11y101n2y3n9yn3y
  n4y106ny60n12y3n7y6n20y54n2y2n15yn2y5n3y10n2y29n3y58n7y2n2y2n2y10ny10n2y29n3y58n5y4n2y2n2y4ny3
  0n2y3ny11n3y58n8yn3yn2y21n2y22n3y4n3y58n7y2n2y2n2y9n2y10n2y30ny59n5y3n3yn3y10ny40n5y57n7yn3yn3
  y8n2y11n2y29n3y58n7yn3yn3y8n2y11n2y15ny12n4y58n7yn3yn3y10ny10n2y29n3y75n6ynyn8y18n2y61ny2n7y18
  ny99ny2n6yn2y16ny163n19y9n11yn36y110n12yny2n4y23n4y4n3yn3y2n7y3n4y13n12yny10n4y1652n2y30n2y30n
  2y30n2y66n19y188n2y34ny118n12y4n9y222n5y57n10y2n20y74n2y11n3y49n5y48n15y60n3y30n9y2n2y57n11y50
  n19y412n34y1729n52y2294n32y30836n8y34n2y354ny8ny23n5y88n2y50n16yny57ny38n5y28n12y45n4y48n12y37
  ny67n14y12ny8n2y45n3y50nyn3y2n2y5ny44n5y5ny237n8y20275ny2135n5y1670n3yn2y5n4y788n4y65ny321n2y7
  9ny259n3y53n14y45n2y11n3y45n9y9ny61n3y36n12y18n2y57n3y48n13y14n2y92n9y2ny6ny2ny157n10y23n4y58n
  7y2n2y2n2y10ny10n2y84n9yny2nyn4yn2y103n13yn3y106n18y237n7y2n7y29n2y82n15yny106n11y103n14y257n1
  3y247n6yn2y2n2y3nyny142n7y2n6y4ny28n10y42n5yn4y18n11y46n14y407n8yn7y83n22yn14y122n6y3nyn2yn3yn
  y3ny66n5yn2yn4y348n4y9n2yny48n7y3n3y16861n17y3616nyn55y7n4y93n2y19628ny9057n7yn17y2n7yn2yn5y10
  0ny2231ny2024n26y6n26y6n26y986742n"

def otherDefaultIgnorableCodePointFlags : String :=
  "847ny3599n2y1619n2y2223ny4350ny52795ny79n9y851975nyn30y96n128y240n3600y192512n"

def otherGraphemeExtendFlags : String :=
  "2494ny24ny358ny24ny102ny24ny232nyny4n2yn2y9n2y103ny24ny119ny15ny2357ny30ny1024ny5nyny5n2y101ny
  71n2y1048ny4129n2y31011ny108ny21981n2y4640ny116ny264ny14ny9ny96ny9ny2nyn3y5ny224ny12ny241ny262
  ny633ny12ny1539ny20654n2y24947n2y6n6y798381n96y196480n"

def otherIdContinueFlags : String :=
  "183ny719ny4065n9y1640ny1585n2y4333ny52841ny1048730n"

def otherIdStartFlags : String :=
  "6277n2y2193ny21ny3948n2y1101667n"

def otherLowercaseFlags : String :=
  "170ny15ny501n9y7n2y30n5y96ny52ny3457ny3119n63y13ny34n37y689ny13ny16n13y211n16y848n26y1938n2y31
  262n2y210ny129n3y3n2y866n4y9ny23574ny2n3yn42yn9y55413n62y991122n"

def otherMathFlags : String :=
  "94ny881n3y2ny26n2y2n2y7200ny27n3y11ny32n4y24n2y14n2y65n13y4ny3n2y4n5y18ny4ny2n10yny3n5y6ny3n2y
  2n2yn3yn6y3n4y5n5y75n5y2n4yn2yn2ynyn5y2n2y4n2y4n18y2n2ynyn7yny6n2y290n4y168n2yny24ny17ny445n2y
  12n9y5n5y5n2y2n2y3n5y14nyny2n6y24n2y57nyny29n4y9n2y342n2y31n10y403n22y63n4y32n2y54371nyny4ny21
  1nyny54465n85yn71yn2y2ny2n2y2n4yn12ynyn7yn65yn4y2n8yn7yn28yn4yn5yny3n7yn340y2n25yn25yn31yn25yn
  31yn25yn31yn25yn31yn25yn8y2n50y5632n4yn27yn2yny2nyn10yn4ynyny6ny4nynynyn3yn2yny2nynynynynyn2yn
  y2n4yn7yn4yn4ynyn10yn17y5n3yn5yn17y987460n"

def otherUppercaseFlags : String :=
  "8544n16y838n26y117856n26y6n26y6n26y986742n"

def patternSyntaxFlags : String :=
  "33n15y10n7y26n4yny26n4y34n7ynyn2ynyn2y4ny4ny3ny23ny31ny7960n24y8n15y2n19yn10y305n720y160n630y3
  0n1132y512n128y385n3y4n25y15ny52493n2y261n2y1049017n"

def patternWhiteSpaceFlags : String :=
  "9n5y18ny100ny8072n2y24n2y1105878n"

def prependedConcatenationMarkFlags : String :=
  "1536n6y215ny49ny384n2y80ny67546ny15ny1044274n"

def quotationMarkFlags : String :=
  "34ny4ny131ny15ny8028n8y25n2y3591ny457n4y13n3y52769n4y189ny4ny90n2y1048732n"

def radicalFlags : String :=
  "11904n26yn89y12n214y1101866n"

def regionalIndicatorFlags : String :=
  "127462n26y986624n"

def sentenceTerminalFlags : String :=
  "33ny12ny16ny1353ny147n3y180ny43n3y246ny61nyny3n2y293n2y1764n2y790ny4n2y773ny198n2y157n2y45ny5n
  y314n2y354n4y162n2y10n2y2n2y29n3y187n2y65n2y932ny23n2y9n3y3247n3y306ny13ny22n2y429ny29948ny270
  n2y227ny3ny382n2y86n2y95ny152n2y147n3y144n2y249ny21030ny2n2y59ny3n2y169ny12ny16ny65ny2804n2y12
  77n5y44n4y189n2y117n4y127n3y129n2y6ny16n2y88n2yn2y108ny298n2y117n2y373n2y5n15y105n2y249n3y517n
  yny251n2y87n2y420n2y692n2y74n2y19241n2y133ny65n2y11ny553n2y296ny19974ny7656ny992631n"

def softDottedFlags : String :=
  "105n2y196ny281ny30ny52ny20ny320ny98nyny6409ny51ny13ny3ny132ny157ny421ny214n2y2866ny108453n2y50
  n2y50n2y50n2y50n2y50n2y50n2y50n2y50n2y50n2y50n2y50n2y50n2y2182ny305n2y26ny991127n"

def terminalPunctuationFlags : String :=
  "33ny10nyny11n2y3ny830ny8ny513ny57ny72ny14nyn3y180ny43n11yny235n2y54n6yn8y31ny261n2y1268n2y172n
  y4n6y311n2y789n8y773ny124n3y71n2y157n3y3ny39n4y2n2y314n2y354n4y162n2y10n2yn3y29n3y187n5y62n2y9
  32ny23n2y9n3y3247n3y306ny13ny4ny10nyn2y3n2y428n2y29947n2y269n3y227n5y382n2y86n2y95ny151n3y147n
  3y127ny16n2y249ny21030ny2n2y57n3yn4y169ny10nyny11n2y3ny65ny2ny1082ny48ny1158ny199ny310n2y152n6
  y68n6y89n4y952n5y44n4y189n7y112n4y127n3y129n2y6ny16n2y88n5y108ny298n2y117n3y12n2y358n4y3n15y10
  5n2y249n3y517nyny251n2y87n2y4n2y414n3y45ny645n2y74n2y1323n5y17913n2y133ny65n3y10ny553n2y295n2y
  19974ny7655n4y992629n"

def unifiedIdeographFlags : String :=
  "13312n6592y64n20992y23054n2ynyn2y10nynyn2y2n3y67030n42720y32n4154y6n222y2n5762y14n7473y15n622y
  4514n4939y5n4192y908368n"

def uppercaseFlags : String :=
  "65n26y101n23yn7y33nynynynynynynynynynynynynynynynynynynynynynynynynynynyny2nynynynynynynyny2ny
  nynynynynynynynynynynynynynynynynynynynynynyn2ynyny3n2ynyn2yn3y2n4yn2yn3y3n2yn2ynynyn2yny2nyn2
  yn3ynyn2y3ny7ny2ny2ny2nynynynynynynyny2nynynynynynynynyny2ny2nyn3ynynynynynynynynynynynynynyny
  nynynynynynynynynynynynynynyny7n2yn2y2nyn4ynynynyny289nyny3ny8ny6nyn3ynyn2yn17yn9y35ny2n3y3nyn
  ynynynynynynynynynyny5ny2nyn2y2n51y48nynynynynynynynynynynynynynynynyny9nynynynynynynynynynyny
  nynynynynynynynynynynynynynynynyn2ynynynynynyny2nynynynynynynynynynynynynynynynynynynynynynyny
  nynynynynynynynynynynynynynynynynynynynynynynynyny2n38y2889n38yny5ny722n86y2195ny6n43y2n3y320n
  ynynynynynynynynynynynynynynynynynynynynynynynynynynynynynynynynynynynynynynynynynynynynynynyn
  ynynynynynynynynynynynynynynynynynynynynynynynynynynyny9nynynynynynynynynynynynynynynynynynyny
  nynynynynynynynynynynynynynynynynynynynynynynynynynynynynyny9n8y8n6y10n8y8n8y8n6y11nynynyny8n8
  y72n4y12n4y12n4y12n5y11n4y262ny4ny3n3y2n3y2ny3n5y6nynynyn4y2n4y10n2y5ny26n16y19ny818n26y1840n4
  8y48nyn3y2nynynyn4yny2ny8n3ynynynynynynynynynynynynynynynynynynynynynynynynynynynynynynynynyny
  nynynynynynynynynynynynynynynyny8nyny4ny31053nynynynynynynynynynynynynynynynynynynynynynyny19n
  ynynynynynynynynynynynynyny135nynynynynynyny3nynynynynynynynynynynynynynynynynynynynynynynynyn
  ynynynynynyny10nynyn2ynynynyny4nyny2nyny3nynynynynynynynynynyn5yn5ynynynynynynynyn4ynyn2y3ny5n
  ynynyny24ny22315n26y1221n40y136n36y156n11yn15yn7yn2y1770n51y157n22y2874n32y21888n32y26016n26y2
  6n26y26n26y26nyn2y2ny2n2y2n4yn8y26n26y26n2yn4y2n8yn7y27n2yn4yn5yny3n7y27n26y26n26y26n26y26n26y
  26n26y26n26y30n25y33n25y33n25y33n25y33n25y33ny4405n34y2062n26y6n26y6n26y986742n"

def variationSelectorFlags : String :=
  "6155n3yny58864n16y852720n240y196112n"

def whiteSpaceFlags : String :=
  "9n5y18ny100ny26ny5599ny2431n11y29n2y5ny47ny4000ny1101823n"

def xidContinueFlags : String :=
  "48n10y7n26y4nyn26y47ny10nyny2ny5n23yn31yn458y4n12y14n5y7nyny17n117yn2y3n3yny6n5ynyn20yn83yn139
  yn5y2n166yn38y2ny6n41y8n45ynyn2yn2yny8n27y4n4y29n11y5n74y4n102yn8y2n10yn19y2ny16n59y2n101y14n5
  4y4ny2ny2n46y18n28y4n11y5n24yn6y8n75yn129y2n10yn19yn8y2n2y2n22yn7yny3n4y2n9y2n2y2n4y8ny4n2yn5y
  2n12y10nyny2n3yn6y4n2y2n22yn7yn2yn2yn2y2nyn5y4n2y2n3y3ny7n4yny7n16y11n3yn9yn3yn22yn7yn2yn5y2n1
  0yn3yn3y2ny15n4y2n10y9n7yn3yn8y2n2y2n22yn7yn2yn5y2n9y2n2y2n3y7n3y4n2yn5y2n10yny16n2yn6y3n3yn4y
  3n2ynyn2y3n2y3n3y3n12y4n5y3n3yn4y2ny6ny14n10y16n13yn3yn23yn16y2n9yn3yn4y7n2yn3y2ny2n4y2n10y16n
  4yn8yn3yn23yn10yn5y2n9yn3yn4y7n2y6n2yn4y2n10yn3y12n13yn3yn51yn3yn5y5n4y7n5y2n10y10n6yn3yn18y3n
  24yn9yny2n7y3ny4n6ynyn8y6n10y2n2y13n58y5n15yn10y39n2ynyn5yn24ynyn23y2n5ynyn7yn10y2n4y32ny23n2y
  6n10y11nynyny4n10yn36y4n20yn18yn36y9ny57n74y6n78y2n38yny5ny2n43yn333yn4y2n7ynyn4y2n41yn4y2n33y
  n4y2n7ynyn4y2n15yn57yn4y2n67y2n3y9n9y14n16y16n86y2n6y3n620y2n17yn26y5n75y3n11y7n22y9n22y11n20y
  12n13yn3yn2y12n84y3ny4n2y2n10y33n3yn11y6n89y7n43y5n70y10n31yn12y4n12y10n40y2n5y11n44y4n26y6n11
  y37n28y4n63yn29y2n11y6n10y13ny8n14yn16y49n77y3n10y17n9y12n116y12n56y8n10y3n49y2n11y5n43y2n3y16
  n3yn39y5n534y2n6y2n38y2n6y2n8ynynynyn31y2n53yn7yny3n3yn7y3n4y2n6y4n13y5n3yn7y15n2y49n2y19ny28n
  y13ny16n13y51n13y4ny3n12y17ny4ny2n10yny2n6y6nynynyn16y2n4y5n5y4ny17n41y2679n229y6n9y12n38yny5n
  y2n56y7ny15n24y9n7yn7yn7yn7yn7yn7yn7yn7yn32y517n3y25n15yn5y2n5y4n86y2n2y2n3yn95y5n43yn94y17n32
  y48n16y512n6592y64n22157y67n46y2n269y3n28y20n48y4n10yn115y37n9y2n103y2n67y2n2ynyn8y21n54y4ny19
  n52y12n70y10n10y6n24y3nyn49y2n36y12n29y3n65y14n11y6n31yn55y9n14y2n10y6n23y3n73y24n3y2n16y2n5y1
  0n6y2n6y2n6y9n7yn7yn43yn14y6n123yn2y2n10y6n11172y12n23y4n49y8452n366y2n106y38n7y12n5y5n12yn13y
  n5ynyn2yn2yn108y33n139y6n218y18n64y2n54y40n10y6n16y16n16y3n2y24n3y33nyny3nynynynyn126y19n10y7n
  26y4nyn26y10n90y3n6y2n6y2n6y2n3y35n12yn26yn19yn2yn15y2n14y34n123y69n53y136ny130n29y3n49y15ny31
  n32y13n30y5n43y5n30y2n36y4n8yn5y42n158y2n10y6n36y4n36y4n40y8n52y12n11yn15yn7yn2yn11yn15yn7yn2y
  3n52y12n311y9n22y10n8y24n6yn42yn9y69n6y2nyn44yn2y3ny2n23y10n23y9n31y65n19yn2y10n22y10n26y70n56
  y6n2y64n4yn2y5n8yn3yn29y2n3y4ny32n29y3n29y35n8yn30y25n54y10n22y10n19y13n18y110n73y55n51y13n51y
  13n40y8n10y6n38y3n5yn23y250n42yn2y3n2y16n3y55n33y10ny8n33y31n22y42n21y27n23y9n71y31n16y9n60y7n
  y13n25y7n10y6n53yn10y4n4y8n36y2ny9n69y4n4yn13yny35n18yn37y6n4y62n7ynyn4yn15yn10y7n59y5n10y6n4y
  n8y2n2y2n22yn7yn2yn5yn10y2n2y2n3y2ny6ny5n7y2n7y3n5y11n10yny2nyn38yn10yny2nyn4yn8y13n2y29n75y5n
  10y4n4y30n70yny8n10y166n54y2n9y23n6y34n65y3ny11n10y38n57y7n10y6n20y28n27y2n15y4n10y6n7y185n59y
  101n74y21n8y2ny2n8yn2yn30yn2y2n9y12n10y70n8y2n46y2n8yn2y27n63y8ny8n74y3ny18n73y199n33y15n10y6n
  9yn45yn9y15n10y24n30y2n22yn14y73n7yn2yn44y3nyn2yn9y8n10y6n6yn2yn37yn2yn6y7n10y310n23y9n17yn41y
  3n5y13n11y85ny79n922y102n111y17n196y2636n97y15n1072y16n22y10n3995y5n583y6841n58y1734n569y7n31y
  n10y6n79yn10y6n30y2n5y11n55y9n4y12n10y9n21y5n19y432n45y3n10y198n64y128n75y4n57y7n17y64n2yn2y11
  n2y14n6136y8n1238y41n10y8935n4yn7yn2yn291y15ny29n3y2ny14n4y8n396y2308n107y5n13y3n9y7n10y3n2y41
  77n10y518n46y2n23y542n5y3n6y8n8y2n7y30n4y148n3y443n85yn71yn2y2ny2n2y2n4yn12ynyn7yn65yn4y2n8yn7
  yn28yn4yn5yny3n7yn340y2n25yn25yn31yn25yn31yn25yn31yn25yn31yn25yn8y2n50y512n55y4n50y8ny14ny22n5
  yn15y1104n31y6n6y213n7yn17y2n7yn2yn5y5n62y33ny112n45y3n14y2n10y4ny321n31y17n58y470n42y214n43y4
  85n7yn4yn2yn15yn197y11n7y41n76y4n10y1190n4yn27yn2yny2nyn10yn4ynyny6ny4nynynyn3yn2yny2nynynynyn
  yn2yny2n4yn7yn4yn4ynyn10yn17y5n3yn5yn17y3380n10y1030n42720y32n4154y6n222y2n5762y14n7473y15n622
  y2466n542y1506n4939y5n4192y712016n240y196112n"

def xidStartFlags : String :=
  "65n26y6n26y47ny10ny4ny5n23yn31yn458y4n12y14n5y7nyny129n5yn2y3n3yny6nyn3ynyn20yn83yn139y8n166yn
  38y2ny6n41y71n27y4n4y45n43y35n2yn99yny15n2y7n2y10n3y2ny16nyn30y29n89y11ny24n33y9n2y4ny5n22y4ny
  9ny3ny23n25y7n11y5n24yn6y17n42y58n54y3ny18ny7n10y15n16y4n8y2n2y2n22yn7yny3n4y3ny16ny13n2yn3y14
  n2y10ny8n6y4n2y2n22yn7yn2yn2yn2y31n4yny19n3y16n9yn3yn22yn7yn2yn5y3ny18ny15n2y23ny11n8y2n2y2n22
  yn7yn2yn5y3ny30n2yn3y15ny17nyn6y3n3yn4y3n2ynyn2y3n2y3n3y3n12y22ny52n8yn3yn23yn16y3ny26n3y2ny2n
  2y30ny4n8yn3yn23yn10yn5y3ny31n2yn2y15n2y17n9yn3yn41y2ny16ny5n3y8n3y24n6y5n18y3n24yn9yny2n7y58n
  48yny13n7y58n2ynyn5yn24ynyn10yny10ny2n5yny21n4y32ny63n8yn36y27n5y115n43y20ny16n6y4n4y3ny3n2y7n
  3y4n13y12ny17n38yny5ny2n43yn333yn4y2n7ynyn4y2n41yn4y2n33yn4y2n7ynyn4y2n15yn57yn4y2n67y37n16y16
  n86y2n6y3n620y2n17yn26y5n75y3n11y7n18y13n19y14n18y14n13yn3y15n52y35ny4ny67n89y7n41yny5n70y10n3
  1y49n30y2n5y11n44y4n26y54n23y9n53y82ny93n47y17n8y54n30y13n2y10n44y26n36y41n3y10n36y2n11y5n43y2
  n3y41n4yn6yn2y3ny5n192y64n278y2n6y2n38y2n6y2n8ynynynyn31y2n53yn7yny3n3yn7y3n4y2n6y4n13y5n3yn7y
  116ny13ny16n13y101ny4ny2n10yny2n6y6nynynyn16y2n4y5n5y4ny17n41y2679n229y6n4y3n2y12n38yny5ny2n56
  y7ny16n23y9n7yn7yn7yn7yn7yn7yn7yn7y550n3y25n9y7n5y2n5y4n86y6n3yn90yn4y5n43yn94y17n32y48n16y512
  n6592y64n22157y67n46y2n269y3n16y10n2y20n47y16n31y2n80y39n9y2n103y2n67y2n2ynyn8y21n16yn3yn4yn23
  y29n52y14n50y62n6y3nyn2y11n28y10n23y25n29y7n47y28ny16n5yn10y10n5yn41y23n3yn8y20n23y3ny3n50yny3
  n2y2n5y2nyny24n3y2n11y7n3y12n6y2n6y2n6y9n7yn7yn43yn14y6n115y29n11172y12n23y4n49y8452n366y2n106
  y38n7y12n5y5nyn10yn13yn5ynyn2yn2yn108y33n139y6n218y18n64y2n54y40n10y119nyny3nynynynyn126y36n26
  y6n26y11n56y2n31y3n6y2n6y2n6y2n3y35n12yn26yn19yn2yn15y2n14y34n123y69n53y267n29y3n49y47n32y13n3
  0y5n38y10n30y2n36y4n8yn5y42n158y18n36y4n36y4n40y8n52y12n11yn15yn7yn2yn11yn15yn7yn2y3n52y12n311
  y9n22y10n8y24n6yn42yn9y69n6y2nyn44yn2y3ny2n23y10n23y9n31y65n19yn2y10n22y10n26y70n56y6n2y64ny15
  n4yn3yn29y42n29y3n29y35n8yn28y27n54y10n22y10n19y13n18y110n73y55n51y13n51y13n36y38n28y9n23y250n
  42y6n2y16n3y59n29y10ny8n22y42n18y46n21y27n23y12n53y57n2y2ny13n45y32n25y26n36y29ny2ny8n35y3ny12
  n48y14n4y21nyny35n18yn25y19n2y63n7ynyn4yn15yn10y7n47y38n8y2n2y2n22yn7yn2yn5y3ny18ny12n5y30n10y
  ny2nyn38yny25nyny44n53y18n4y20n3y30n48y20n2yny184n47y41n4y36n48y20ny59n43y13ny71n27y37n7y185n4
  4y116n64y31n8y2ny2n8yn2yn24y15nyny94n8y2n39y16nyny28ny10n40y7ny21ny11n46y19ny18n73y199n33y31n9
  yn37y17ny49n30y112n7yn2yn38y21ny25n6yn2yn32y14ny327n19y15nyn13yn34y124ny79n922y102n111y17n196y
  2636n97y15n1072y17n6y25n3995y5n583y6841n30y1762n569y7n31y17n79y17n30y18n48y16n4y31n21y5n19y432
  n45y211n64y128n75y5ny66n13y64n2yny28n6136y8n1238y41n10y8935n4yn7yn2yn291y15ny29n3y2ny14n4y8n39
  6y2308n107y5n13y3n9y7n10y5990n85yn71yn2y2ny2n2y2n4yn12ynyn7yn65yn4y2n8yn7yn28yn4yn5yny3n7yn340
  y2n25yn25yn31yn25yn31yn25yn31yn25yn31yn25yn8y1844n31y6n6y261n62y146n45y10n7y16ny321n30y18n44y4
  84n28y228n30y2ny495n7yn4yn2yn15yn197y59n68y7ny1204n4yn27yn2yny2nyn10yn4ynyny6ny4nynynyn3yn2yny
  2nynynynynyn2yny2n4yn7yn4yn4ynyn10yn17y5n3yn5yn17y4420n42720y32n4154y6n222y2n5762y14n7473y15n6
  22y2466n542y1506n4939y5n4192y908368n"

/-- The properties, their names in lower case and without separators. -/
def binaryProperties : List BinaryProperty :=
  [⟨["asciihexdigit", "ahex"], .ofFlags asciiHexDigitFlags⟩,
    ⟨["alphabetic", "alpha"], alphabeticTable⟩,
    ⟨["bidicontrol", "bidic"], .ofFlags bidiControlFlags⟩,
    ⟨["bidimirrored", "bidim"], .ofFlags bidiMirroredFlags⟩,
    ⟨["caseignorable", "ci"], .ofFlags caseIgnorableFlags⟩,
    ⟨["cased"], .ofFlags casedFlags⟩,
    ⟨["changeswhencasefolded", "cwcf"], .ofFlags changesWhenCasefoldedFlags⟩,
    ⟨["changeswhencasemapped", "cwcm"], .ofFlags changesWhenCasemappedFlags⟩,
    ⟨["changeswhenlowercased", "cwl"], .ofFlags changesWhenLowercasedFlags⟩,
    ⟨["changeswhentitlecased", "cwt"], .ofFlags changesWhenTitlecasedFlags⟩,
    ⟨["changeswhenuppercased", "cwu"], .ofFlags changesWhenUppercasedFlags⟩,
    ⟨["dash"], .ofFlags dashFlags⟩,
    ⟨["defaultignorablecodepoint", "di"], defaultIgnorableCodePointTable⟩,
    ⟨["deprecated", "dep"], .ofFlags deprecatedFlags⟩,
    ⟨["diacritic", "dia"], .ofFlags diacriticFlags⟩,
    ⟨["emoji"], .ofFlags emojiFlags⟩,
    ⟨["emojicomponent", "ecomp"], .ofFlags emojiComponentFlags⟩,
    ⟨["emojimodifier", "emod"], .ofFlags emojiModifierFlags⟩,
    ⟨["emojimodifierbase", "ebase"], .ofFlags emojiModifierBaseFlags⟩,
    ⟨["emojipresentation", "epres"], .ofFlags emojiPresentationFlags⟩,
    ⟨["extendedpictographic", "extpict"], .ofFlags extendedPictographicFlags⟩,
    ⟨["extender", "ext"], .ofFlags extenderFlags⟩,
    ⟨["graphemebase", "grbase"], .ofFlags graphemeBaseFlags⟩,
    ⟨["graphemeextend", "grext"], graphemeExtendTable⟩,
    ⟨["graphemelink", "grlink"], .ofFlags graphemeLinkFlags⟩,
    ⟨["hexdigit", "hex"], .ofFlags hexDigitFlags⟩,
    ⟨["hyphen"], .ofFlags hyphenFlags⟩,
    ⟨["idsbinaryoperator", "idsb"], .ofFlags idsBinaryOperatorFlags⟩,
    ⟨["idstrinaryoperator", "idst"], .ofFlags idsTrinaryOperatorFlags⟩,
    ⟨["idsunaryoperator", "idsu"], .ofFlags idsUnaryOperatorFlags⟩,
    ⟨["idcompatmathcontinue"], .ofFlags idCompatMathContinueFlags⟩,
    ⟨["idcompatmathstart"], .ofFlags idCompatMathStartFlags⟩,
    ⟨["idcontinue", "idc"], .ofFlags idContinueFlags⟩,
    ⟨["idstart", "ids"], .ofFlags idStartFlags⟩,
    ⟨["ideographic", "ideo"], .ofFlags ideographicFlags⟩,
    ⟨["joincontrol", "joinc"], .ofFlags joinControlFlags⟩,
    ⟨["logicalorderexception", "loe"], .ofFlags logicalOrderExceptionFlags⟩,
    ⟨["lowercase", "lower"], .ofFlags lowercaseFlags⟩,
    ⟨["math"], .ofFlags mathFlags⟩,
    ⟨["modifiercombiningmark", "mcm"], .ofFlags modifierCombiningMarkFlags⟩,
    ⟨["noncharactercodepoint", "nchar"], .ofFlags noncharacterCodePointFlags⟩,
    ⟨["otheralphabetic", "oalpha"], .ofFlags otherAlphabeticFlags⟩,
    ⟨["otherdefaultignorablecodepoint", "odi"], .ofFlags otherDefaultIgnorableCodePointFlags⟩,
    ⟨["othergraphemeextend", "ogrext"], .ofFlags otherGraphemeExtendFlags⟩,
    ⟨["otheridcontinue", "oidc"], .ofFlags otherIdContinueFlags⟩,
    ⟨["otheridstart", "oids"], .ofFlags otherIdStartFlags⟩,
    ⟨["otherlowercase", "olower"], .ofFlags otherLowercaseFlags⟩,
    ⟨["othermath", "omath"], .ofFlags otherMathFlags⟩,
    ⟨["otheruppercase", "oupper"], .ofFlags otherUppercaseFlags⟩,
    ⟨["patternsyntax", "patsyn"], .ofFlags patternSyntaxFlags⟩,
    ⟨["patternwhitespace", "patws"], .ofFlags patternWhiteSpaceFlags⟩,
    ⟨["prependedconcatenationmark", "pcm"], .ofFlags prependedConcatenationMarkFlags⟩,
    ⟨["quotationmark", "qmark"], .ofFlags quotationMarkFlags⟩,
    ⟨["radical"], .ofFlags radicalFlags⟩,
    ⟨["regionalindicator", "ri"], .ofFlags regionalIndicatorFlags⟩,
    ⟨["sentenceterminal", "sterm"], .ofFlags sentenceTerminalFlags⟩,
    ⟨["softdotted", "sd"], .ofFlags softDottedFlags⟩,
    ⟨["terminalpunctuation", "term"], .ofFlags terminalPunctuationFlags⟩,
    ⟨["unifiedideograph", "uideo"], .ofFlags unifiedIdeographFlags⟩,
    ⟨["uppercase", "upper"], .ofFlags uppercaseFlags⟩,
    ⟨["variationselector", "vs"], .ofFlags variationSelectorFlags⟩,
    ⟨["whitespace", "space", "wspace"], .ofFlags whiteSpaceFlags⟩,
    ⟨["xidcontinue", "xidc"], .ofFlags xidContinueFlags⟩,
    ⟨["xidstart", "xids"], .ofFlags xidStartFlags⟩]

def BinaryProperty.named? (name : String) : Option BinaryProperty :=
  binaryProperties.find? fun property => property.names.contains name

end CallContract.Text
