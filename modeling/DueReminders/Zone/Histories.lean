import DueReminders.Zone.Rule

/-! Offset changes since 1970 of the zones whose past is kept, in seconds, as the time zone database
2025b has them. Changes before 1970 are left out, so until then a zone has the offset it entered
1970 with. -/
namespace DueReminders.Zone.Histories

def utc : History where
  initial := 0
  changes := []
  rule := ⟨0, none⟩

def losAngeles : History where
  initial := -28800
  changes := [
    (9972000, -25200), (25693200, -28800), (41421600, -25200), (57747600, -28800),
    (73476000, -25200), (89197200, -28800), (104925600, -25200), (120646800, -28800),
    (126698400, -25200), (152096400, -28800), (162381600, -25200), (183546000, -28800),
    (199274400, -25200), (215600400, -28800), (230724000, -25200), (247050000, -28800),
    (262778400, -25200), (278499600, -28800), (294228000, -25200), (309949200, -28800),
    (325677600, -25200), (341398800, -28800), (357127200, -25200), (372848400, -28800),
    (388576800, -25200), (404902800, -28800), (420026400, -25200), (436352400, -28800),
    (452080800, -25200), (467802000, -28800), (483530400, -25200), (499251600, -28800),
    (514980000, -25200), (530701200, -28800), (544615200, -25200), (562150800, -28800),
    (576064800, -25200), (594205200, -28800), (607514400, -25200), (625654800, -28800),
    (638964000, -25200), (657104400, -28800), (671018400, -25200), (688554000, -28800),
    (702468000, -25200), (720003600, -28800), (733917600, -25200), (752058000, -28800),
    (765367200, -25200), (783507600, -28800), (796816800, -25200), (814957200, -28800),
    (828871200, -25200), (846406800, -28800), (860320800, -25200), (877856400, -28800),
    (891770400, -25200), (909306000, -28800), (923220000, -25200), (941360400, -28800),
    (954669600, -25200), (972810000, -28800), (986119200, -25200), (1004259600, -28800),
    (1018173600, -25200), (1035709200, -28800), (1049623200, -25200), (1067158800, -28800),
    (1081072800, -25200), (1099213200, -28800), (1112522400, -25200), (1130662800, -28800),
    (1143972000, -25200), (1162112400, -28800), (1173607200, -25200)]
  rule := ⟨-28800, some ⟨-25200, ⟨3, 2, 0, 7200⟩, ⟨11, 1, 0, 7200⟩⟩⟩

def newYork : History where
  initial := -18000
  changes := [
    (9961200, -14400), (25682400, -18000), (41410800, -14400), (57736800, -18000),
    (73465200, -14400), (89186400, -18000), (104914800, -14400), (120636000, -18000),
    (126687600, -14400), (152085600, -18000), (162370800, -14400), (183535200, -18000),
    (199263600, -14400), (215589600, -18000), (230713200, -14400), (247039200, -18000),
    (262767600, -14400), (278488800, -18000), (294217200, -14400), (309938400, -18000),
    (325666800, -14400), (341388000, -18000), (357116400, -14400), (372837600, -18000),
    (388566000, -14400), (404892000, -18000), (420015600, -14400), (436341600, -18000),
    (452070000, -14400), (467791200, -18000), (483519600, -14400), (499240800, -18000),
    (514969200, -14400), (530690400, -18000), (544604400, -14400), (562140000, -18000),
    (576054000, -14400), (594194400, -18000), (607503600, -14400), (625644000, -18000),
    (638953200, -14400), (657093600, -18000), (671007600, -14400), (688543200, -18000),
    (702457200, -14400), (719992800, -18000), (733906800, -14400), (752047200, -18000),
    (765356400, -14400), (783496800, -18000), (796806000, -14400), (814946400, -18000),
    (828860400, -14400), (846396000, -18000), (860310000, -14400), (877845600, -18000),
    (891759600, -14400), (909295200, -18000), (923209200, -14400), (941349600, -18000),
    (954658800, -14400), (972799200, -18000), (986108400, -14400), (1004248800, -18000),
    (1018162800, -14400), (1035698400, -18000), (1049612400, -14400), (1067148000, -18000),
    (1081062000, -14400), (1099202400, -18000), (1112511600, -14400), (1130652000, -18000),
    (1143961200, -14400), (1162101600, -18000), (1173596400, -14400)]
  rule := ⟨-18000, some ⟨-14400, ⟨3, 2, 0, 7200⟩, ⟨11, 1, 0, 7200⟩⟩⟩

def berlin : History where
  initial := 3600
  changes := [
    (323830800, 7200), (338950800, 3600), (354675600, 7200), (370400400, 3600), (386125200, 7200),
    (401850000, 3600), (417574800, 7200), (433299600, 3600), (449024400, 7200), (465354000, 3600),
    (481078800, 7200), (496803600, 3600), (512528400, 7200), (528253200, 3600), (543978000, 7200),
    (559702800, 3600), (575427600, 7200), (591152400, 3600), (606877200, 7200), (622602000, 3600),
    (638326800, 7200), (654656400, 3600), (670381200, 7200), (686106000, 3600), (701830800, 7200),
    (717555600, 3600), (733280400, 7200), (749005200, 3600), (764730000, 7200), (780454800, 3600),
    (796179600, 7200), (811904400, 3600), (828234000, 7200)]
  rule := ⟨3600, some ⟨7200, ⟨3, 5, 0, 7200⟩, ⟨10, 5, 0, 10800⟩⟩⟩

def london : History where
  initial := 3600
  changes := [
    (57722400, 0), (69818400, 3600), (89172000, 0), (101268000, 3600), (120621600, 0),
    (132717600, 3600), (152071200, 0), (164167200, 3600), (183520800, 0), (196221600, 3600),
    (214970400, 0), (227671200, 3600), (246420000, 0), (259120800, 3600), (278474400, 0),
    (290570400, 3600), (309924000, 0), (322020000, 3600), (341373600, 0), (354675600, 3600),
    (372819600, 0), (386125200, 3600), (404269200, 0), (417574800, 3600), (435718800, 0),
    (449024400, 3600), (467773200, 0), (481078800, 3600), (499222800, 0), (512528400, 3600),
    (530672400, 0), (543978000, 3600), (562122000, 0), (575427600, 3600), (593571600, 0),
    (606877200, 3600), (625626000, 0), (638326800, 3600), (657075600, 0), (670381200, 3600),
    (688525200, 0), (701830800, 3600), (719974800, 0), (733280400, 3600), (751424400, 0),
    (764730000, 3600), (782874000, 0), (796179600, 3600), (814323600, 0), (828234000, 3600)]
  rule := ⟨0, some ⟨3600, ⟨3, 5, 0, 3600⟩, ⟨10, 5, 0, 7200⟩⟩⟩

def kolkata : History where
  initial := 19800
  changes := []
  rule := ⟨19800, none⟩

def tokyo : History where
  initial := 32400
  changes := []
  rule := ⟨32400, none⟩

def sydney : History where
  initial := 36000
  changes := [
    (57686400, 39600), (67968000, 36000), (89136000, 39600), (100022400, 36000),
    (120585600, 39600), (131472000, 36000), (152035200, 39600), (162921600, 36000),
    (183484800, 39600), (194976000, 36000), (215539200, 39600), (226425600, 36000),
    (246988800, 39600), (257875200, 36000), (278438400, 39600), (289324800, 36000),
    (309888000, 39600), (320774400, 36000), (341337600, 39600), (352224000, 36000),
    (372787200, 39600), (386697600, 36000), (404841600, 39600), (415728000, 36000),
    (436291200, 39600), (447177600, 36000), (467740800, 39600), (478627200, 36000),
    (499190400, 39600), (511286400, 36000), (530035200, 39600), (542736000, 36000),
    (562089600, 39600), (574790400, 36000), (594144000, 39600), (606240000, 36000),
    (625593600, 39600), (636480000, 36000), (657043200, 39600), (667929600, 36000),
    (688492800, 39600), (699379200, 36000), (719942400, 39600), (731433600, 36000),
    (751996800, 39600), (762883200, 36000), (783446400, 39600), (794332800, 36000),
    (814896000, 39600), (828201600, 36000), (846345600, 39600), (859651200, 36000),
    (877795200, 39600), (891100800, 36000), (909244800, 39600), (922550400, 36000),
    (941299200, 39600), (954000000, 36000), (967305600, 39600), (985449600, 36000),
    (1004198400, 39600), (1017504000, 36000), (1035648000, 39600), (1048953600, 36000),
    (1067097600, 39600), (1080403200, 36000), (1099152000, 39600), (1111852800, 36000),
    (1130601600, 39600), (1143907200, 36000), (1162051200, 39600), (1174752000, 36000),
    (1193500800, 39600)]
  rule := ⟨36000, some ⟨39600, ⟨10, 1, 0, 7200⟩, ⟨4, 1, 0, 10800⟩⟩⟩

def kathmandu : History where
  initial := 19800
  changes := [
    (504901800, 20700)]
  rule := ⟨20700, none⟩

def stJohns : History where
  initial := -12600
  changes := [
    (9955800, -9000), (25677000, -12600), (41405400, -9000), (57731400, -12600), (73459800, -9000),
    (89181000, -12600), (104909400, -9000), (120630600, -12600), (136359000, -9000),
    (152080200, -12600), (167808600, -9000), (183529800, -12600), (199258200, -9000),
    (215584200, -12600), (230707800, -9000), (247033800, -12600), (262762200, -9000),
    (278483400, -12600), (294211800, -9000), (309933000, -12600), (325661400, -9000),
    (341382600, -12600), (357111000, -9000), (372832200, -12600), (388560600, -9000),
    (404886600, -12600), (420010200, -9000), (436336200, -12600), (452064600, -9000),
    (467785800, -12600), (483514200, -9000), (499235400, -12600), (514963800, -9000),
    (530685000, -12600), (544591860, -9000), (562127460, -12600), (576041460, -5400),
    (594178260, -12600), (607491060, -9000), (625631460, -12600), (638940660, -9000),
    (657081060, -12600), (670995060, -9000), (688530660, -12600), (702444660, -9000),
    (719980260, -12600), (733894260, -9000), (752034660, -12600), (765343860, -9000),
    (783484260, -12600), (796793460, -9000), (814933860, -12600), (828847860, -9000),
    (846383460, -12600), (860297460, -9000), (877833060, -12600), (891747060, -9000),
    (909282660, -12600), (923196660, -9000), (941337060, -12600), (954646260, -9000),
    (972786660, -12600), (986095860, -9000), (1004236260, -12600), (1018150260, -9000),
    (1035685860, -12600), (1049599860, -9000), (1067135460, -12600), (1081049460, -9000),
    (1099189860, -12600), (1112499060, -9000), (1130639460, -12600), (1143948660, -9000),
    (1162089060, -12600), (1173583860, -9000), (1194143460, -12600), (1205033460, -9000),
    (1225593060, -12600), (1236483060, -9000), (1257042660, -12600), (1268537460, -9000),
    (1289097060, -12600), (1299987060, -9000), (1320553800, -12600)]
  rule := ⟨-12600, some ⟨-9000, ⟨3, 2, 0, 7200⟩, ⟨11, 1, 0, 7200⟩⟩⟩

def lordHowe : History where
  initial := 36000
  changes := [
    (352216800, 37800), (372785400, 41400), (384273000, 37800), (404839800, 41400),
    (415722600, 37800), (436289400, 41400), (447172200, 37800), (467739000, 41400),
    (478621800, 37800), (499188600, 39600), (511282800, 37800), (530033400, 39600),
    (542732400, 37800), (562087800, 39600), (574786800, 37800), (594142200, 39600),
    (606236400, 37800), (625591800, 39600), (636476400, 37800), (657041400, 39600),
    (667926000, 37800), (688491000, 39600), (699375600, 37800), (719940600, 39600),
    (731430000, 37800), (751995000, 39600), (762879600, 37800), (783444600, 39600),
    (794329200, 37800), (814894200, 39600), (828198000, 37800), (846343800, 39600),
    (859647600, 37800), (877793400, 39600), (891097200, 37800), (909243000, 39600),
    (922546800, 37800), (941297400, 39600), (953996400, 37800), (967303800, 39600),
    (985446000, 37800), (1004196600, 39600), (1017500400, 37800), (1035646200, 39600),
    (1048950000, 37800), (1067095800, 39600), (1080399600, 37800), (1099150200, 39600),
    (1111849200, 37800), (1130599800, 39600), (1143903600, 37800), (1162049400, 39600),
    (1174748400, 37800), (1193499000, 39600)]
  rule := ⟨37800, some ⟨39600, ⟨10, 1, 0, 7200⟩, ⟨4, 1, 0, 7200⟩⟩⟩

def kiritimati : History where
  initial := -38400
  changes := [
    (307622400, -36000), (788868000, 50400)]
  rule := ⟨50400, none⟩

def pagoPago : History where
  initial := -39600
  changes := []
  rule := ⟨-39600, none⟩

def saoPaulo : History where
  initial := -10800
  changes := [
    (499748400, -7200), (511236000, -10800), (530593200, -7200), (540266400, -10800),
    (562129200, -7200), (571197600, -10800), (592974000, -7200), (602042400, -10800),
    (624423600, -7200), (634701600, -10800), (656478000, -7200), (666756000, -10800),
    (687927600, -7200), (697600800, -10800), (719982000, -7200), (728445600, -10800),
    (750826800, -7200), (761709600, -10800), (782276400, -7200), (793159200, -10800),
    (813726000, -7200), (824004000, -10800), (844570800, -7200), (856058400, -10800),
    (876106800, -7200), (888717600, -10800), (908074800, -7200), (919562400, -10800),
    (938919600, -7200), (951616800, -10800), (970974000, -7200), (982461600, -10800),
    (1003028400, -7200), (1013911200, -10800), (1036292400, -7200), (1045360800, -10800),
    (1066532400, -7200), (1076810400, -10800), (1099364400, -7200), (1108864800, -10800),
    (1129431600, -7200), (1140314400, -10800), (1162695600, -7200), (1172368800, -10800),
    (1192330800, -7200), (1203213600, -10800), (1224385200, -7200), (1234663200, -10800),
    (1255834800, -7200), (1266717600, -10800), (1287284400, -7200), (1298167200, -10800),
    (1318734000, -7200), (1330221600, -10800), (1350788400, -7200), (1361066400, -10800),
    (1382238000, -7200), (1392516000, -10800), (1413687600, -7200), (1424570400, -10800),
    (1445137200, -7200), (1456020000, -10800), (1476586800, -7200), (1487469600, -10800),
    (1508036400, -7200), (1518919200, -10800), (1541300400, -7200), (1550368800, -10800)]
  rule := ⟨-10800, none⟩

def cairo : History where
  initial := 7200
  changes := [
    (10364400, 10800), (23587200, 7200), (41900400, 10800), (55123200, 7200), (73522800, 10800),
    (86745600, 7200), (105058800, 10800), (118281600, 7200), (136594800, 10800), (149817600, 7200),
    (168130800, 10800), (181353600, 7200), (199753200, 10800), (212976000, 7200),
    (231289200, 10800), (244512000, 7200), (262825200, 10800), (276048000, 7200),
    (294361200, 10800), (307584000, 7200), (325983600, 10800), (339206400, 7200),
    (357519600, 10800), (370742400, 7200), (396399600, 10800), (402278400, 7200),
    (426812400, 10800), (433814400, 7200), (452214000, 10800), (465436800, 7200),
    (483750000, 10800), (496972800, 7200), (515286000, 10800), (528508800, 7200),
    (546822000, 10800), (560044800, 7200), (578444400, 10800), (591667200, 7200),
    (610412400, 10800), (623203200, 7200), (641516400, 10800), (654739200, 7200),
    (673052400, 10800), (686275200, 7200), (704674800, 10800), (717897600, 7200),
    (736210800, 10800), (749433600, 7200), (767746800, 10800), (780969600, 7200),
    (799020000, 10800), (812322000, 7200), (830469600, 10800), (843771600, 7200),
    (861919200, 10800), (875221200, 7200), (893368800, 10800), (906670800, 7200),
    (925423200, 10800), (938725200, 7200), (956872800, 10800), (970174800, 7200),
    (988322400, 10800), (1001624400, 7200), (1019772000, 10800), (1033074000, 7200),
    (1051221600, 10800), (1064523600, 7200), (1083276000, 10800), (1096578000, 7200),
    (1114725600, 10800), (1128027600, 7200), (1146175200, 10800), (1158872400, 7200),
    (1177624800, 10800), (1189112400, 7200), (1209074400, 10800), (1219957200, 7200),
    (1240524000, 10800), (1250802000, 7200), (1272578400, 10800), (1281474000, 7200),
    (1284069600, 10800), (1285880400, 7200), (1400191200, 10800), (1403816400, 7200),
    (1406844000, 10800), (1411678800, 7200), (1682632800, 10800)]
  rule := ⟨7200, some ⟨10800, ⟨4, 5, 5, 0⟩, ⟨10, 5, 4, 86400⟩⟩⟩

/-- Each history with the names it goes by. -/
def named : List (History × List String) := [
  (utc, ["Etc/UCT", "Etc/UTC", "Etc/Universal", "Etc/Zulu", "UCT", "UTC", "Universal", "Zulu"]),
  (losAngeles, ["America/Los_Angeles", "US/Pacific"]),
  (newYork, ["America/New_York", "US/Eastern"]),
  (berlin, ["Europe/Berlin"]),
  (london, ["Europe/Belfast", "Europe/London", "GB", "GB-Eire"]),
  (kolkata, ["Asia/Calcutta", "Asia/Kolkata"]),
  (tokyo, ["Asia/Tokyo", "Japan"]),
  (sydney, ["Australia/ACT", "Australia/Canberra", "Australia/NSW", "Australia/Sydney"]),
  (kathmandu, ["Asia/Kathmandu", "Asia/Katmandu"]),
  (stJohns, ["America/St_Johns", "Canada/Newfoundland"]),
  (lordHowe, ["Australia/LHI", "Australia/Lord_Howe"]),
  (kiritimati, ["Pacific/Kiritimati"]),
  (pagoPago, ["Pacific/Pago_Pago", "Pacific/Samoa", "US/Samoa"]),
  (saoPaulo, ["America/Sao_Paulo", "Brazil/East"]),
  (cairo, ["Africa/Cairo", "Egypt"])]

end DueReminders.Zone.Histories
