import EdgeGateway.Text.Category

/-!
# Quoted text

Text in double quotes as messages show it: what would not print is written as an escape.
-/

namespace EdgeGateway.Text

/-- The runs of code points that extend the character before them (`y`) and of the others. -/
def extendingRuns : String :=
  String.join [
    "768n112y275n7y263n45y1n1y1n2y1n2y1n1y72n11y48n21y16n1y101n7y2n6y2n2y1n4y35n1y30n27y91n11y58n9y9n",
    "1y24n4y1n9y1n3y1n5y43n3y60n8y42n24y1n32y55n1y1n1y4n8y4n1y3n7y10n2y29n1y58n1y1n1y2n4y8n1y9n1y10n2",
    "y26n1y2n2y57n1y4n2y4n2y2n3y3n1y30n2y3n1y11n2y57n1y4n5y1n2y4n1y20n2y22n6y1n1y58n1y1n2y1n4y8n1y7n3",
    "y10n2y30n1y59n1y1n1y12n1y9n1y40n1y3n1y55n1y1n3y5n3y1n4y7n2y11n2y29n1y58n1y2n1y2n1y3n1y5n2y7n2y11",
    "n2y28n2y57n2y1n1y2n4y8n1y9n1y10n2y29n1y72n1y4n1y2n3y1n1y8n1y81n1y2n7y12n8y98n1y2n9y11n7y73n2y27n",
    "1y1n1y1n1y55n14y1n5y1n2y5n11y1n36y9n1y102n4y1n6y1n2y2n2y25n2y4n3y16n4y13n1y2n2y6n1y15n1y703n3y94",
    "6n3y29n2y30n2y30n2y64n2y1n7y8n1y2n11y9n1y45n3y1n1y117n2y34n1y118n3y4n2y9n1y6n3y219n2y2n1y58n1y1n",
    "7y1n1y1n1y2n8y6n10y2n1y48n31y49n4y48n7y1n1y5n1y40n9y12n2y32n4y2n2y1n3y56n1y1n2y3n1y1n3y58n8y2n2y",
    "152n3y1n13y1n7y4n1y6n1y3n2y198n64y524n1y195n33y3070n3y141n1y96n32y554n6y105n2y30164n4y1n10y32n2y",
    "80n2y272n1y3n1y4n1y25n2y5n1y151n2y26n18y13n1y38n8y25n11y46n3y48n1y2n4y2n2y39n1y67n6y2n2y2n2y12n1",
    "y8n1y47n1y51n1y1n3y2n2y5n2y1n1y42n2y8n1y238n1y2n1y4n1y20272n1y737n16y16n16y366n2y605n1y226n1y149",
    "n5y1670n3y1n2y5n4y40n3y4n1y165n2y573n4y387n2y80n3y70n11y49n4y123n1y54n15y41n1y2n2y10n3y49n4y2n2y",
    "7n1y61n3y36n5y1n8y62n1y12n2y52n9y10n4y2n1y95n3y2n1y1n2y6n1y2n1y157n1y3n8y21n2y57n2y1n1y1n1y22n1y",
    "14n7y3n5y195n8y2n3y1n1y23n1y81n1y2n6y1n1y2n1y1n2y1n2y235n1y2n4y6n2y1n2y27n2y85n8y2n1y1n2y106n1y1",
    "n1y2n6y1n1y101n3y2n4y1n5y259n9y1n2y245n1y10n2y1n1y4n1y144n4y2n2y4n1y32n10y40n6y2n4y8n1y9n6y2n3y4",
    "6n13y1n2y406n7y1n6y1n1y82n22y2n7y1n2y1n2y122n6y3n1y1n2y1n7y1n1y72n2y3n1y1n1y347n2y11n2y52n5y5n1y",
    "1n1y5373n1y6n15y13978n5y59n7y1048n1y63n4y81n1y19640n2y4705n46y2n23y542n1y1n3y4n5y8n8y2n7y30n4y14",
    "8n3y1979n55y4n50y8n1y14n1y22n5y1n15y1360n7y1n17y2n7y1n2y1n5y100n1y160n7y375n1y61n4y508n4y992n7y1",
    "09n7y792277n96y128n240y196112n"]

def isExtending (c : Char) : Bool :=
  0x300 ≤ c.toNat &&
    (rangesOfRuns (· = ['y']) 0 extendingRuns.length extendingRuns.toList).contains c.toNat

def codePointEscape (c : Char) : List Char :=
  "\\u\x7b".toList ++ Nat.toDigits 16 c.toNat ++ ['\x7d']

def quoteChar (c : Char) : List Char :=
  if c = '\x00' then ['\\', '0']
  else if c = '\t' then ['\\', 't']
  else if c = '\n' then ['\\', 'n']
  else if c = '\r' then ['\\', 'r']
  else if c = '"' then ['\\', '"']
  else if c = '\\' then ['\\', '\\']
  else if isExtending c || !isPrintable c then codePointEscape c
  else [c]

def quoted (s : String) : String :=
  String.ofList ('"' :: s.toList.flatMap quoteChar ++ ['"'])

end EdgeGateway.Text
