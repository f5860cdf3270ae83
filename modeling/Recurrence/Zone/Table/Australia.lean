/-!
# Zones of Australia

The zones whose names begin with `Australia`.  Each entry holds a name and the
zone's offsets as lines of text, in the format that `Recurrence.Zone.ofText` reads.
-/

namespace Recurrence.Zone.Table

/-- The zones of this table, by name. -/
def australia : List (String × List String) := [
  ("Australia/Adelaide",
    ["33260|-2364110060 32400 -2230189200 34200 -1672558200 37800 -1665387000 34200 -883639800",
      "37800 -876123000 34200 -860398200 37800 -844673400 34200 -828343800 37800 -813223800 34200",
      "57688200 37800 67969800 34200 89137800 37800 100024200 34200 120587400 37800 131473800",
      "34200 152037000 37800 162923400 34200 183486600 37800 194977800 34200 215541000 37800",
      "226427400 34200 246990600 37800 257877000 34200 278440200 37800 289326600 34200 309889800",
      "37800 320776200 34200 341339400 37800 352225800 34200 372789000 37800 384280200 34200",
      "404843400 37800 415729800 34200 436293000 37800 447179400 34200 467742600 37800 478629000",
      "34200 499192200 37800 511288200 34200 530037000 37800 542737800 34200 562091400 37800",
      "574792200 34200 594145800 37800 606241800 34200 625595400 37800 637691400 34200 657045000",
      "37800 667931400 34200 688494600 37800 701195400 34200 719944200 37800 731435400 34200",
      "751998600 37800 764094600 34200 783448200 37800 796149000 34200 814897800 37800 828203400",
      "34200 846347400 37800 859653000 34200 877797000 37800 891102600 34200 909246600 37800",
      "922552200 34200 941301000 37800 954001800 34200 972750600 37800 985451400 34200 1004200200",
      "37800 1017505800 34200 1035649800 37800 1048955400 34200 1067099400 37800 1080405000 34200",
      "1099153800 37800 1111854600 34200 1130603400 37800 1143909000 34200 1162053000 37800",
      "1174753800 34200 1193502600 37800|34200 37800 10 1 0 7200 4 1 0 10800"]),
  ("Australia/Brisbane",
    ["36728|-2366791928 36000 -1672560000 39600 -1665388800 36000 -883641600 39600 -876124800",
      "36000 -860400000 39600 -844675200 36000 -828345600 39600 -813225600 36000 57686400 39600",
      "67968000 36000 625593600 39600 636480000 36000 657043200 39600 667929600 36000 688492800",
      "39600 699379200 36000|36000"]),
  ("Australia/Broken_Hill",
    ["33948|-2364110748 36000 -2314951200 32400 -2230189200 34200 -1672558200 37800 -1665387000",
      "34200 -883639800 37800 -876123000 34200 -860398200 37800 -844673400 34200 -828343800 37800",
      "-813223800 34200 57688200 37800 67969800 34200 89137800 37800 100024200 34200 120587400",
      "37800 131473800 34200 152037000 37800 162923400 34200 183486600 37800 194977800 34200",
      "215541000 37800 226427400 34200 246990600 37800 257877000 34200 278440200 37800 289326600",
      "34200 309889800 37800 320776200 34200 341339400 37800 352225800 34200 372789000 37800",
      "386699400 34200 404843400 37800 415729800 34200 436293000 37800 447179400 34200 467742600",
      "37800 478629000 34200 499192200 37800 511288200 34200 530037000 37800 542737800 34200",
      "562091400 37800 574792200 34200 594145800 37800 606241800 34200 625595400 37800 636481800",
      "34200 657045000 37800 667931400 34200 688494600 37800 699381000 34200 719944200 37800",
      "731435400 34200 751998600 37800 762885000 34200 783448200 37800 794334600 34200 814897800",
      "37800 828203400 34200 846347400 37800 859653000 34200 877797000 37800 891102600 34200",
      "909246600 37800 922552200 34200 941301000 37800 954001800 34200 972750600 37800 985451400",
      "34200 1004200200 37800 1017505800 34200 1035649800 37800 1048955400 34200 1067099400 37800",
      "1080405000 34200 1099153800 37800 1111854600 34200 1130603400 37800 1143909000 34200",
      "1162053000 37800 1174753800 34200 1193502600 37800|34200 37800 10 1 0 7200 4 1 0 10800"]),
  ("Australia/Darwin",
    ["31400|-2364108200 32400 -2230189200 34200 -1672558200 37800 -1665387000 34200 -883639800",
      "37800 -876123000 34200 -860398200 37800 -844673400 34200 -828343800 37800 -813223800",
      "34200|34200"]),
  ("Australia/Eucla",
    ["30928|-2337928528 31500 -1672555500 35100 -1665384300 31500 -883637100 35100 -876120300",
      "31500 -860395500 35100 -844670700 31500 152039700 35100 162926100 31500 436295700 35100",
      "447182100 31500 690311700 35100 699383700 31500 1165079700 35100 1174756500 31500",
      "1193505300 35100 1206810900 31500 1224954900 35100 1238260500 31500|31500"]),
  ("Australia/Hobart",
    ["35356|-2345795356 36000 -1680508800 39600 -1665388800 36000 -1646640000 39600 -1635753600",
      "36000 -1615190400 39600 -1604304000 36000 -883641600 39600 -876124800 36000 -860400000",
      "39600 -844675200 36000 -828345600 39600 -813225600 36000 -71136000 39600 -55411200 36000",
      "-37267200 39600 -25776000 36000 -5817600 39600 5673600 36000 25632000 39600 37728000 36000",
      "57686400 39600 67968000 36000 89136000 39600 100022400 36000 120585600 39600 131472000",
      "36000 152035200 39600 162921600 36000 183484800 39600 194976000 36000 215539200 39600",
      "226425600 36000 246988800 39600 257875200 36000 278438400 39600 289324800 36000 309888000",
      "39600 320774400 36000 341337600 39600 352224000 36000 372787200 39600 386092800 36000",
      "404841600 39600 417542400 36000 436291200 39600 447177600 36000 467740800 39600 478627200",
      "36000 499190400 39600 510076800 36000 530035200 39600 542736000 36000 562089600 39600",
      "574790400 36000 594144000 39600 606240000 36000 625593600 39600 637689600 36000 657043200",
      "39600 670348800 36000 686678400 39600 701798400 36000 718128000 39600 733248000 36000",
      "749577600 39600 764697600 36000 781027200 39600 796147200 36000 812476800 39600 828201600",
      "36000 844531200 39600 859651200 36000 875980800 39600 891100800 36000 907430400 39600",
      "922550400 36000 938880000 39600 954000000 36000 967305600 39600 985449600 36000 1002384000",
      "39600 1017504000 36000 1033833600 39600 1048953600 36000 1065283200 39600 1080403200 36000",
      "1096732800 39600 1111852800 36000 1128182400 39600 1143907200 36000 1159632000 39600",
      "1174752000 36000 1191686400 39600|36000 39600 10 1 0 7200 4 1 0 10800"]),
  ("Australia/Lindeman",
    ["35756|-2366790956 36000 -1672560000 39600 -1665388800 36000 -883641600 39600 -876124800",
      "36000 -860400000 39600 -844675200 36000 -828345600 39600 -813225600 36000 57686400 39600",
      "67968000 36000 625593600 39600 636480000 36000 657043200 39600 667929600 36000 688492800",
      "39600 699379200 36000 719942400 39600 731433600 36000 751996800 39600 762883200 36000|36000"]),
  ("Australia/Lord_Howe",
    ["38180|-2364114980 36000 352216800 37800 372785400 41400 384273000 37800 404839800 41400",
      "415722600 37800 436289400 41400 447172200 37800 467739000 41400 478621800 37800 499188600",
      "39600 511282800 37800 530033400 39600 542732400 37800 562087800 39600 574786800 37800",
      "594142200 39600 606236400 37800 625591800 39600 636476400 37800 657041400 39600 667926000",
      "37800 688491000 39600 699375600 37800 719940600 39600 731430000 37800 751995000 39600",
      "762879600 37800 783444600 39600 794329200 37800 814894200 39600 828198000 37800 846343800",
      "39600 859647600 37800 877793400 39600 891097200 37800 909243000 39600 922546800 37800",
      "941297400 39600 953996400 37800 967303800 39600 985446000 37800 1004196600 39600",
      "1017500400 37800 1035646200 39600 1048950000 37800 1067095800 39600 1080399600 37800",
      "1099150200 39600 1111849200 37800 1130599800 39600 1143903600 37800 1162049400 39600",
      "1174748400 37800 1193499000 39600|37800 39600 10 1 0 7200 4 1 0 7200"]),
  ("Australia/Melbourne",
    ["34792|-2364111592 36000 -1672560000 39600 -1665388800 36000 -883641600 39600 -876124800",
      "36000 -860400000 39600 -844675200 36000 -828345600 39600 -813225600 36000 57686400 39600",
      "67968000 36000 89136000 39600 100022400 36000 120585600 39600 131472000 36000 152035200",
      "39600 162921600 36000 183484800 39600 194976000 36000 215539200 39600 226425600 36000",
      "246988800 39600 257875200 36000 278438400 39600 289324800 36000 309888000 39600 320774400",
      "36000 341337600 39600 352224000 36000 372787200 39600 384278400 36000 404841600 39600",
      "415728000 36000 436291200 39600 447177600 36000 467740800 39600 478627200 36000 499190400",
      "39600 511286400 36000 530035200 39600 542736000 36000 561484800 39600 574790400 36000",
      "594144000 39600 606240000 36000 625593600 39600 637689600 36000 657043200 39600 667929600",
      "36000 688492800 39600 699379200 36000 719942400 39600 731433600 36000 751996800 39600",
      "762883200 36000 783446400 39600 796147200 36000 814896000 39600 828201600 36000 846345600",
      "39600 859651200 36000 877795200 39600 891100800 36000 909244800 39600 922550400 36000",
      "941299200 39600 954000000 36000 967305600 39600 985449600 36000 1004198400 39600",
      "1017504000 36000 1035648000 39600 1048953600 36000 1067097600 39600 1080403200 36000",
      "1099152000 39600 1111852800 36000 1130601600 39600 1143907200 36000 1162051200 39600",
      "1174752000 36000 1193500800 39600|36000 39600 10 1 0 7200 4 1 0 10800"]),
  ("Australia/Perth",
    ["27804|-2337925404 28800 -1672552800 32400 -1665381600 28800 -883634400 32400 -876117600",
      "28800 -860392800 32400 -844668000 28800 152042400 32400 162928800 28800 436298400 32400",
      "447184800 28800 690314400 32400 699386400 28800 1165082400 32400 1174759200 28800",
      "1193508000 32400 1206813600 28800 1224957600 32400 1238263200 28800|28800"]),
  ("Australia/Sydney",
    ["36292|-2364113092 36000 -1672560000 39600 -1665388800 36000 -883641600 39600 -876124800",
      "36000 -860400000 39600 -844675200 36000 -828345600 39600 -813225600 36000 57686400 39600",
      "67968000 36000 89136000 39600 100022400 36000 120585600 39600 131472000 36000 152035200",
      "39600 162921600 36000 183484800 39600 194976000 36000 215539200 39600 226425600 36000",
      "246988800 39600 257875200 36000 278438400 39600 289324800 36000 309888000 39600 320774400",
      "36000 341337600 39600 352224000 36000 372787200 39600 386697600 36000 404841600 39600",
      "415728000 36000 436291200 39600 447177600 36000 467740800 39600 478627200 36000 499190400",
      "39600 511286400 36000 530035200 39600 542736000 36000 562089600 39600 574790400 36000",
      "594144000 39600 606240000 36000 625593600 39600 636480000 36000 657043200 39600 667929600",
      "36000 688492800 39600 699379200 36000 719942400 39600 731433600 36000 751996800 39600",
      "762883200 36000 783446400 39600 794332800 36000 814896000 39600 828201600 36000 846345600",
      "39600 859651200 36000 877795200 39600 891100800 36000 909244800 39600 922550400 36000",
      "941299200 39600 954000000 36000 967305600 39600 985449600 36000 1004198400 39600",
      "1017504000 36000 1035648000 39600 1048953600 36000 1067097600 39600 1080403200 36000",
      "1099152000 39600 1111852800 36000 1130601600 39600 1143907200 36000 1162051200 39600",
      "1174752000 36000 1193500800 39600|36000 39600 10 1 0 7200 4 1 0 10800"])]

end Recurrence.Zone.Table
