/-!
# Fixed offsets

The zones of the area `Etc`: universal time and the whole-hour offsets, whose names count hours
behind universal time as positive.  Each entry holds a name and the
zone's offsets as lines of text, in the format that `Recurrence.Zone.ofText` reads.
-/

namespace Recurrence.Zone.Table

/-- The zones of this table, by name. -/
def etc : List (String × List String) := [
  ("Etc/GMT",
    ["0||0"]),
  ("Etc/GMT+1",
    ["-3600||-3600"]),
  ("Etc/GMT+10",
    ["-36000||-36000"]),
  ("Etc/GMT+11",
    ["-39600||-39600"]),
  ("Etc/GMT+12",
    ["-43200||-43200"]),
  ("Etc/GMT+2",
    ["-7200||-7200"]),
  ("Etc/GMT+3",
    ["-10800||-10800"]),
  ("Etc/GMT+4",
    ["-14400||-14400"]),
  ("Etc/GMT+5",
    ["-18000||-18000"]),
  ("Etc/GMT+6",
    ["-21600||-21600"]),
  ("Etc/GMT+7",
    ["-25200||-25200"]),
  ("Etc/GMT+8",
    ["-28800||-28800"]),
  ("Etc/GMT+9",
    ["-32400||-32400"]),
  ("Etc/GMT-1",
    ["3600||3600"]),
  ("Etc/GMT-10",
    ["36000||36000"]),
  ("Etc/GMT-11",
    ["39600||39600"]),
  ("Etc/GMT-12",
    ["43200||43200"]),
  ("Etc/GMT-13",
    ["46800||46800"]),
  ("Etc/GMT-14",
    ["50400||50400"]),
  ("Etc/GMT-2",
    ["7200||7200"]),
  ("Etc/GMT-3",
    ["10800||10800"]),
  ("Etc/GMT-4",
    ["14400||14400"]),
  ("Etc/GMT-5",
    ["18000||18000"]),
  ("Etc/GMT-6",
    ["21600||21600"]),
  ("Etc/GMT-7",
    ["25200||25200"]),
  ("Etc/GMT-8",
    ["28800||28800"]),
  ("Etc/GMT-9",
    ["32400||32400"]),
  ("Etc/UTC",
    ["0||0"])]

end Recurrence.Zone.Table
