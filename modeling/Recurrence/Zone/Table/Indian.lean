/-!
# Zones of the Indian Ocean

The zones whose names begin with `Indian`.  Each entry holds a name and the
zone's offsets as lines of text, in the format that `Recurrence.Zone.ofText` reads.
-/

namespace Recurrence.Zone.Table

/-- The zones of this table, by name. -/
def indian : List (String × List String) := [
  ("Indian/Antananarivo",
    ["11404|-1846293004 10800 -499924800 14400 -492062400 10800|10800"]),
  ("Indian/Chagos",
    ["17380|-1988167780 18000 820436400 21600|21600"]),
  ("Indian/Christmas",
    ["25372|-2364102172 25200|25200"]),
  ("Indian/Cocos",
    ["23260|-2209012060 23400|23400"]),
  ("Indian/Comoro",
    ["10384|-1846291984 10800|10800"]),
  ("Indian/Kerguelen",
    ["0|-631152000 18000|18000"]),
  ("Indian/Mahe",
    ["13308|-1988163708 14400|14400"]),
  ("Indian/Maldives",
    ["17640|-315636840 18000|18000"]),
  ("Indian/Mauritius",
    ["13800|-1988164200 14400 403041600 18000 417034800 14400 1224972000 18000 1238274000",
      "14400|14400"]),
  ("Indian/Mayotte",
    ["10856|-1846292456 10800|10800"]),
  ("Indian/Reunion",
    ["13312|-1848886912 14400|14400"])]

end Recurrence.Zone.Table
