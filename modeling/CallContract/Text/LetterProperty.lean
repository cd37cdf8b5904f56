import CallContract.Text.RunTable

/-!
# Properties that text operations ask for

Tables of the characters that count as alphabetic, that are not visible unless
a program supports them, and that extend the character before them.
-/

namespace CallContract.Text

def alphabeticFlags : String :=
  "65n26y6n26y47ny10ny4ny5n23yn31yn458y4n12y14n5y7nyny86ny29n18yn2y2n4yny6nyn3ynyn20yn83yn139y8n1
  66yn38y2ny6n41y39n14ynyn2yn2yny8n27y4n4y29n11y5n56yn7y14n102yn8y4n8y4n3y10n3y2ny16n48y13n101y2
  4n33y9n2y4ny5n24y2n19y19n25y7n11y5n24yn6y8ny8n42y10n12y3n7y6n76yn16yn3y4n15y13n19yn8y2n2y2n22y
  n7yny3n4y3n8y2n2y2n2yny8ny4n2yn5y12n2y10ny4n3yn6y4n2y2n22yn7yn2yn2yn2y4n5y4n2y2n2y4ny7n4yny17n
  6y11n3yn9yn3yn22yn7yn2yn5y3n9yn3yn2y3ny15n4y21n4y4n3yn8y2n2y2n22yn7yn2yn5y3n8y2n2y2n2y9n2y4n2y
  n5y13ny16n2yn6y3n3yn4y3n2ynyn2y3n2y3n3y3n12y4n5y3n3yn3y3ny6ny40n13yn3yn23yn16y3n8yn3yn3y8n2yn3
  y2ny2n4y28n4yn8yn3yn23yn10yn5y3n8yn3yn3y8n2y6n2yn4y13n3y12n13yn3yn41y2n8yn3yn3yny5n4y7n5y22n6y
  n3yn18y3n24yn9yny2n7y8n6ynyn8y18n2y13n58y5n7y6ny51n2ynyn5yn24ynyn19yn3y2n5yny6ny14n4y32ny63n8y
  n36y4n19y4n16yn36y67n55yny2n5y16n64y10n4y2n38yny5ny2n43yn333yn4y2n7ynyn4y2n41yn4y2n33yn4y2n7yn
  yn4y2n15yn57yn4y2n67y37n16y16n86y2n6y3n620y2n17yn26y5n75y3n11y7n20y11n21y12n20y12n13yn3yn2y12n
  52y2n19y14ny4ny67n89y7n43y5n70y10n31yn12y4n9y23n30y2n5y11n44y4n26y54n28y4n63y2n20y50ny23n2y11n
  3y49n52yn15yn8y51n42y2n4y10n44yn11y14n55y22n3y10n36y2n11y5n43y2n3y41n4yn6yn2y3ny5n192y19n34y11
  n278y2n6y2n38y2n6y2n8ynynynyn31y2n53yn7yny3n3yn7y3n4y2n6y4n13y5n3yn7y116ny13ny16n13y101ny4ny2n
  10yny3n5y6nynynyn4yn11y2n4y5n5y4ny17n41y813n52y1814n229y6n4y3n2y12n38yny5ny2n56y7ny16n23y9n7yn
  7yn7yn7yn7yn7yn7yn7yn32y47ny469n3y25n9y7n5y2n5y4n86y6n3yn90yn4y5n43yn94y17n32y48n16y512n6592y6
  4n22157y67n46y2n269y3n16y10n2y20n47y5n8y3n113y39n9y2n103y2n67y2n2ynyn8y21n20yn33y24n52y12n68yn
  y44n6y3nyn3y10n33y5n35y13n29y3n51yn12y15ny16n16y10n5yn55y9n14y18n23y3n69ynyny24n3y2n16y2n4y11n
  6y2n6y2n6y9n7yn7yn43yn14y6n123y21n11172y12n23y4n49y8452n366y2n106y38n7y12n5y5n12yn13yn5ynyn2yn
  2yn108y33n363y18n64y2n54y40n12y116n5yn135y36n26y6n26y11n89y3n6y2n6y2n6y2n3y35n12yn26yn19yn2yn1
  5y2n14y34n123y69n53y267n29y3n49y47n32y13n30y5n43y5n30y2n36y4n8yn5y42n158y18n36y4n36y4n40y8n52y
  12n11yn15yn7yn2yn11yn15yn7yn2y3n52y12n311y9n22y10n8y24n6yn42yn9y69n6y2nyn44yn2y3ny2n23y10n23y9
  n31y65n19yn2y10n22y10n26y70n56y6n2y64n4yn2y5n8yn3yn29y42n29y3n29y35n8yn28y27n54y10n22y10n19y13
  n18y110n73y55n51y13n51y13n40y34n28y3ny5n23y250n42yn2y3n2y16n3y55ny3n29y10ny8n22y42n18y46n21y27
  n23y9n70y43n5y10n57y9ny13n25y23n51y17n4y8n35y3ny9n64yn4y9n2y10nyny35n18yn34y2ny6n4y62n7ynyn4yn
  15yn10y7n57y23n4yn8y2n2y2n22yn7yn2yn5y3n8y2n2y2n2y3ny6ny5n7y28n10yny2nyn38yn10yny2nyn4yn2y3nyn
  y44n66yn3yn4y20n3y30n66y2n2yny184n54y2n7y25n6y34n63yny3ny59n54y2ny71n27y2n14y21n7y185n57y103n6
  4y31n8y2ny2n8yn2yn30yn2y2n2y2n4y93n8y2n46y2n6ynyn2y27n51y2n10y17n72y5ny18n73y199n33y31n9yn45yn
  7yny49n30y2n22yn14y73n7yn2yn44y3nyn2yn3yny2n2y24n6yn2yn37yn2yn4yny327n23y9n17yn41y3n3y111ny79n
  922y102n111y17n196y2636n97y15n1072y17n6y25n3995y5n583y6841n47y1745n569y7n31y17n79y17n30y18n48y
  16n4y31n21y5n19y432n45y211n64y128n75y4n57y7n17y64n2yny12n2y14n6136y8n1238y41n10y8935n4yn7yn2yn
  291y15ny29n3y2ny14n4y8n396y2308n107y5n13y3n9y7n10y4ny5985n85yn71yn2y2ny2n2y2n4yn12ynyn7yn65yn4
  y2n8yn7yn28yn4yn5yny3n7yn340y2n25yn25yn31yn25yn31yn25yn31yn25yn31yn25yn8y1844n31y6n6y213n7yn17
  y2n7yn2yn5y5n62y33ny112n45y10n7y16ny321n30y18n44y484n28y228n30y2ny495n7yn4yn2yn15yn197y59n68y3
  ny3ny1204n4yn27yn2yny2nyn10yn4ynyny6ny4nynynyn3yn2yny2nynynynynyn2yny2n4yn7yn4yn4ynyn10yn17y5n
  3yn5yn17y628n26y6n26y6n26y3702n42720y32n4154y6n222y2n5762y14n7473y15n622y2466n542y1506n4939y5n
  4192y908368n"

def alphabeticTable : RunTable Bool :=
  .ofFlags alphabeticFlags

def isAlphabetic (c : Char) : Bool :=
  alphabeticTable.holds c

def defaultIgnorableCodePointFlags : String :=
  "173ny673ny716ny2882n2y1619n2y85n5y2043n5y26n5y49n16y4340ny52379n16y239ny160ny79n9y48295n4y5327
  n8y798341n4096y192512n"

def defaultIgnorableCodePointTable : RunTable Bool :=
  .ofFlags defaultIgnorableCodePointFlags

def isIgnorable (c : Char) : Bool :=
  defaultIgnorableCodePointTable.holds c

def graphemeExtendFlags : String :=
  "768n112y275n7y263n45ynyn2yn2yny72n11y48n21y16ny101n7y2n6y2n2yn4y35ny30n27y91n11y58n9y9ny24n4yn
  9yn3yn5y43n3y59n9y42n24yn32y55nyny4n8y4ny3n7y10n2y29ny58nyny2n4y8ny9ny10n2y26ny2n2y57ny4n2y4n2
  y2n3y3ny30n2y3ny11n2y57ny4n5yn2y4ny20n2y22n6yny58nyn2yn4y8ny7n3y10n2y30ny59nyny12ny9ny40ny3ny5
  5nyn3y5n3yn4y7n2y11n2y29ny58ny2n2yny3n3yn4y7n2y11n2y28n2y57n2yny2n4y8ny9ny10n2y29ny72ny4ny2n3y
  ny8ny81ny2n7y12n8y98ny2n9y11n7y73n2y27nynyny55n14yn5yn2y5n11yn36y9ny102n4yn6yn2y2n2y25n2y4n3y1
  6n4y13ny2n2y6ny15ny703n3y946n4y28n3y29n2y30n2y64n2yn7y8ny2n11y9ny45n3yny117n2y34ny118n3y4n2y9n
  y6n3y219n2y2ny58nyn7ynyny2n8y6n10y2ny48n31y49n4y48n10y4n3y38n9y12n2y32n4y2n6y56nyn2y3nyn5y56n8
  y2n2y152n3yn13yn7y4ny6ny3n2y198n64y524ny195n33y3070n3y141ny96n32y554n6y105n2y30164n4yn10y32n2y
  80n2y272ny3ny4ny25n2y5ny151n2y26n18y13ny38n8y25n11yny44n3y48ny2n4y2n2y2ny36ny67n6y2n2y2n2y12ny
  8ny47ny51nyn3y2n2y5n2yny42n2y8ny238ny2ny4ny20272ny737n16y16n16y366n2y605ny226ny149n5y1670n3yn2
  y5n4y40n3y4ny165n2y573n4y65n5y317n2y79n4y70n11y49n4y123ny54n15y41ny2n2y10n3y49n4y2n2y7ny61n3y3
  6n5yn8y62ny12n2y52n9yny8n4y2ny95n3y2n4y6ny2ny157ny3n8y21n2y57n2ynyny12ny9ny14n7y3n5y67ny2n6yny
  2nyn3y4n3yny14n2y85n8y2n3yny23ny81ny2n6yny2nyn2yn2y235ny2n4y6n2yn2y27n2y85n8y2nyn2y106nyny2n8y
  101nyny2n4yn5y259n9yn2y245ny10n4y4ny144n4y2n2y4ny32n10y40n6y2n4y8ny9n6y2n3y46n13yn2y406n7yn6yn
  y82n22y2n7yn2yn2y122n6y3nyn2yn7yny72n2y3nyny347n2y11n2y52n5y5n3y23ny5349ny6n15y11464n12y3n3y24
  96n5y59n7y1048ny63n4y81ny11n2y19627n2y4705n46y2n23y542n5y3n6y8n8y2n7y30n4y148n3y1979n55y4n50y8
  ny14ny22n5yn15y1360n7yn17y2n7yn2yn5y100ny160n7y375ny61n4y508n4y254n2y736n7y109n7y792277n96y128
  n240y196112n"

def graphemeExtendTable : RunTable Bool :=
  .ofFlags graphemeExtendFlags

def isGraphemeExtender (c : Char) : Bool :=
  graphemeExtendTable.holds c

end CallContract.Text
