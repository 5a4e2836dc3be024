import DueReminders.Zone.Rule

/-! The other zone names of the time zone database 2025b, grouped by the rule in force there now.
The changes that led to this rule are left out, so these zones have it at every instant, past ones
too. -/
namespace DueReminders.Zone.Current

/-- Each rule with the zones that keep it. -/
def named : List (Rule × List String) := [
  (⟨0, none⟩, ["Africa/Abidjan", "Africa/Accra", "Africa/Bamako", "Africa/Banjul", "Africa/Bissau",
    "Africa/Conakry", "Africa/Dakar", "Africa/Freetown", "Africa/Lome", "Africa/Monrovia",
    "Africa/Nouakchott", "Africa/Ouagadougou", "Africa/Sao_Tome", "Africa/Timbuktu",
    "America/Danmarkshavn", "Atlantic/Reykjavik", "Atlantic/St_Helena", "Etc/GMT", "Etc/GMT+0",
    "Etc/GMT-0", "Etc/GMT0", "Etc/Greenwich", "GMT", "GMT+0", "GMT-0", "GMT0", "Greenwich",
    "Iceland"]),
  (⟨10800, none⟩, ["Africa/Addis_Ababa", "Africa/Asmara", "Africa/Asmera", "Africa/Dar_es_Salaam",
    "Africa/Djibouti", "Africa/Kampala", "Africa/Mogadishu", "Africa/Nairobi", "Antarctica/Syowa",
    "Asia/Aden", "Asia/Amman", "Asia/Baghdad", "Asia/Bahrain", "Asia/Damascus", "Asia/Istanbul",
    "Asia/Kuwait", "Asia/Qatar", "Asia/Riyadh", "Etc/GMT-3", "Europe/Istanbul", "Europe/Kirov",
    "Europe/Minsk", "Europe/Moscow", "Europe/Simferopol", "Europe/Volgograd",
    "Indian/Antananarivo", "Indian/Comoro", "Indian/Mayotte", "Turkey", "W-SU"]),
  (⟨3600, none⟩, ["Africa/Algiers", "Africa/Bangui", "Africa/Brazzaville", "Africa/Casablanca",
    "Africa/Douala", "Africa/El_Aaiun", "Africa/Kinshasa", "Africa/Lagos", "Africa/Libreville",
    "Africa/Luanda", "Africa/Malabo", "Africa/Ndjamena", "Africa/Niamey", "Africa/Porto-Novo",
    "Africa/Tunis", "Etc/GMT-1"]),
  (⟨7200, none⟩, ["Africa/Blantyre", "Africa/Bujumbura", "Africa/Gaborone", "Africa/Harare",
    "Africa/Johannesburg", "Africa/Juba", "Africa/Khartoum", "Africa/Kigali", "Africa/Lubumbashi",
    "Africa/Lusaka", "Africa/Maputo", "Africa/Maseru", "Africa/Mbabane", "Africa/Tripoli",
    "Africa/Windhoek", "Etc/GMT-2", "Europe/Kaliningrad", "Libya"]),
  (⟨3600, some ⟨7200, ⟨3, 5, 0, 7200⟩, ⟨10, 5, 0, 10800⟩⟩⟩, ["Africa/Ceuta", "Arctic/Longyearbyen",
    "Atlantic/Jan_Mayen", "CET", "Europe/Amsterdam", "Europe/Andorra", "Europe/Belgrade",
    "Europe/Bratislava", "Europe/Brussels", "Europe/Budapest", "Europe/Busingen",
    "Europe/Copenhagen", "Europe/Gibraltar", "Europe/Ljubljana", "Europe/Luxembourg",
    "Europe/Madrid", "Europe/Malta", "Europe/Monaco", "Europe/Oslo", "Europe/Paris",
    "Europe/Podgorica", "Europe/Prague", "Europe/Rome", "Europe/San_Marino", "Europe/Sarajevo",
    "Europe/Skopje", "Europe/Stockholm", "Europe/Tirane", "Europe/Vaduz", "Europe/Vatican",
    "Europe/Vienna", "Europe/Warsaw", "Europe/Zagreb", "Europe/Zurich", "MET", "Poland"]),
  (⟨-36000, some ⟨-32400, ⟨3, 2, 0, 7200⟩, ⟨11, 1, 0, 7200⟩⟩⟩, ["America/Adak", "America/Atka",
    "US/Aleutian"]),
  (⟨-32400, some ⟨-28800, ⟨3, 2, 0, 7200⟩, ⟨11, 1, 0, 7200⟩⟩⟩, ["America/Anchorage",
    "America/Juneau", "America/Metlakatla", "America/Nome", "America/Sitka", "America/Yakutat",
    "US/Alaska"]),
  (⟨-14400, none⟩, ["America/Anguilla", "America/Antigua", "America/Aruba", "America/Barbados",
    "America/Blanc-Sablon", "America/Boa_Vista", "America/Campo_Grande", "America/Caracas",
    "America/Cuiaba", "America/Curacao", "America/Dominica", "America/Grenada",
    "America/Guadeloupe", "America/Guyana", "America/Kralendijk", "America/La_Paz",
    "America/Lower_Princes", "America/Manaus", "America/Marigot", "America/Martinique",
    "America/Montserrat", "America/Port_of_Spain", "America/Porto_Velho", "America/Puerto_Rico",
    "America/Santo_Domingo", "America/St_Barthelemy", "America/St_Kitts", "America/St_Lucia",
    "America/St_Thomas", "America/St_Vincent", "America/Tortola", "America/Virgin", "Brazil/West",
    "Etc/GMT+4"]),
  (⟨-10800, none⟩, ["America/Araguaina", "America/Argentina/Buenos_Aires",
    "America/Argentina/Catamarca", "America/Argentina/ComodRivadavia", "America/Argentina/Cordoba",
    "America/Argentina/Jujuy", "America/Argentina/La_Rioja", "America/Argentina/Mendoza",
    "America/Argentina/Rio_Gallegos", "America/Argentina/Salta", "America/Argentina/San_Juan",
    "America/Argentina/San_Luis", "America/Argentina/Tucuman", "America/Argentina/Ushuaia",
    "America/Asuncion", "America/Bahia", "America/Belem", "America/Buenos_Aires",
    "America/Catamarca", "America/Cayenne", "America/Cordoba", "America/Coyhaique",
    "America/Fortaleza", "America/Jujuy", "America/Maceio", "America/Mendoza",
    "America/Montevideo", "America/Paramaribo", "America/Punta_Arenas", "America/Recife",
    "America/Rosario", "America/Santarem", "Antarctica/Palmer", "Antarctica/Rothera",
    "Atlantic/Stanley", "Etc/GMT+3"]),
  (⟨-18000, none⟩, ["America/Atikokan", "America/Bogota", "America/Cancun", "America/Cayman",
    "America/Coral_Harbour", "America/Eirunepe", "America/Guayaquil", "America/Jamaica",
    "America/Lima", "America/Panama", "America/Porto_Acre", "America/Rio_Branco", "Brazil/Acre",
    "EST", "Etc/GMT+5", "Jamaica"]),
  (⟨-21600, none⟩, ["America/Bahia_Banderas", "America/Belize", "America/Chihuahua",
    "America/Costa_Rica", "America/El_Salvador", "America/Guatemala", "America/Managua",
    "America/Merida", "America/Mexico_City", "America/Monterrey", "America/Regina",
    "America/Swift_Current", "America/Tegucigalpa", "Canada/Saskatchewan", "Etc/GMT+6",
    "Mexico/General", "Pacific/Galapagos"]),
  (⟨-25200, some ⟨-21600, ⟨3, 2, 0, 7200⟩, ⟨11, 1, 0, 7200⟩⟩⟩, ["America/Boise",
    "America/Cambridge_Bay", "America/Ciudad_Juarez", "America/Denver", "America/Edmonton",
    "America/Inuvik", "America/Shiprock", "America/Yellowknife", "Canada/Mountain", "MST7MDT",
    "Navajo", "US/Mountain"]),
  (⟨-21600, some ⟨-18000, ⟨3, 2, 0, 7200⟩, ⟨11, 1, 0, 7200⟩⟩⟩, ["America/Chicago",
    "America/Indiana/Knox", "America/Indiana/Tell_City", "America/Knox_IN", "America/Matamoros",
    "America/Menominee", "America/North_Dakota/Beulah", "America/North_Dakota/Center",
    "America/North_Dakota/New_Salem", "America/Ojinaga", "America/Rainy_River",
    "America/Rankin_Inlet", "America/Resolute", "America/Winnipeg", "CST6CDT", "Canada/Central",
    "US/Central", "US/Indiana-Starke"]),
  (⟨-25200, none⟩, ["America/Creston", "America/Dawson", "America/Dawson_Creek",
    "America/Fort_Nelson", "America/Hermosillo", "America/Mazatlan", "America/Phoenix",
    "America/Whitehorse", "Canada/Yukon", "Etc/GMT+7", "MST", "Mexico/BajaSur", "US/Arizona"]),
  (⟨-18000, some ⟨-14400, ⟨3, 2, 0, 7200⟩, ⟨11, 1, 0, 7200⟩⟩⟩, ["America/Detroit",
    "America/Fort_Wayne", "America/Grand_Turk", "America/Indiana/Indianapolis",
    "America/Indiana/Marengo", "America/Indiana/Petersburg", "America/Indiana/Vevay",
    "America/Indiana/Vincennes", "America/Indiana/Winamac", "America/Indianapolis",
    "America/Iqaluit", "America/Kentucky/Louisville", "America/Kentucky/Monticello",
    "America/Louisville", "America/Montreal", "America/Nassau", "America/Nipigon",
    "America/Pangnirtung", "America/Port-au-Prince", "America/Thunder_Bay", "America/Toronto",
    "Canada/Eastern", "EST5EDT", "US/East-Indiana", "US/Michigan"]),
  (⟨-28800, some ⟨-25200, ⟨3, 2, 0, 7200⟩, ⟨11, 1, 0, 7200⟩⟩⟩, ["America/Ensenada",
    "America/Santa_Isabel", "America/Tijuana", "America/Vancouver", "Canada/Pacific",
    "Mexico/BajaNorte", "PST8PDT"]),
  (⟨-14400, some ⟨-10800, ⟨3, 2, 0, 7200⟩, ⟨11, 1, 0, 7200⟩⟩⟩, ["America/Glace_Bay",
    "America/Goose_Bay", "America/Halifax", "America/Moncton", "America/Thule", "Atlantic/Bermuda",
    "Canada/Atlantic"]),
  (⟨-7200, some ⟨-3600, ⟨3, 5, 0, -3600⟩, ⟨10, 5, 0, 0⟩⟩⟩, ["America/Godthab", "America/Nuuk",
    "America/Scoresbysund"]),
  (⟨-18000, some ⟨-14400, ⟨3, 2, 0, 0⟩, ⟨11, 1, 0, 3600⟩⟩⟩, ["America/Havana", "Cuba"]),
  (⟨-10800, some ⟨-7200, ⟨3, 2, 0, 7200⟩, ⟨11, 1, 0, 7200⟩⟩⟩, ["America/Miquelon"]),
  (⟨-7200, none⟩, ["America/Noronha", "Atlantic/South_Georgia", "Brazil/DeNoronha", "Etc/GMT+2"]),
  (⟨-14400, some ⟨-10800, ⟨9, 1, 6, 86400⟩, ⟨4, 1, 6, 86400⟩⟩⟩, ["America/Santiago",
    "Chile/Continental"]),
  (⟨28800, none⟩, ["Antarctica/Casey", "Asia/Brunei", "Asia/Choibalsan", "Asia/Chongqing",
    "Asia/Chungking", "Asia/Harbin", "Asia/Hong_Kong", "Asia/Irkutsk", "Asia/Kuala_Lumpur",
    "Asia/Kuching", "Asia/Macao", "Asia/Macau", "Asia/Makassar", "Asia/Manila", "Asia/Shanghai",
    "Asia/Singapore", "Asia/Taipei", "Asia/Ujung_Pandang", "Asia/Ulaanbaatar", "Asia/Ulan_Bator",
    "Australia/Perth", "Australia/West", "Etc/GMT-8", "Hongkong", "PRC", "ROC", "Singapore"]),
  (⟨25200, none⟩, ["Antarctica/Davis", "Asia/Bangkok", "Asia/Barnaul", "Asia/Ho_Chi_Minh",
    "Asia/Hovd", "Asia/Jakarta", "Asia/Krasnoyarsk", "Asia/Novokuznetsk", "Asia/Novosibirsk",
    "Asia/Phnom_Penh", "Asia/Pontianak", "Asia/Saigon", "Asia/Tomsk", "Asia/Vientiane",
    "Etc/GMT-7", "Indian/Christmas"]),
  (⟨36000, none⟩, ["Antarctica/DumontDUrville", "Asia/Ust-Nera", "Asia/Vladivostok",
    "Australia/Brisbane", "Australia/Lindeman", "Australia/Queensland", "Etc/GMT-10",
    "Pacific/Chuuk", "Pacific/Guam", "Pacific/Port_Moresby", "Pacific/Saipan", "Pacific/Truk",
    "Pacific/Yap"]),
  (⟨36000, some ⟨39600, ⟨10, 1, 0, 7200⟩, ⟨4, 1, 0, 10800⟩⟩⟩, ["Antarctica/Macquarie",
    "Australia/Currie", "Australia/Hobart", "Australia/Melbourne", "Australia/Tasmania",
    "Australia/Victoria"]),
  (⟨18000, none⟩, ["Antarctica/Mawson", "Antarctica/Vostok", "Asia/Almaty", "Asia/Aqtau",
    "Asia/Aqtobe", "Asia/Ashgabat", "Asia/Ashkhabad", "Asia/Atyrau", "Asia/Dushanbe",
    "Asia/Karachi", "Asia/Oral", "Asia/Qostanay", "Asia/Qyzylorda", "Asia/Samarkand",
    "Asia/Tashkent", "Asia/Yekaterinburg", "Etc/GMT-5", "Indian/Kerguelen", "Indian/Maldives"]),
  (⟨43200, some ⟨46800, ⟨9, 5, 0, 7200⟩, ⟨4, 1, 0, 10800⟩⟩⟩, ["Antarctica/McMurdo",
    "Antarctica/South_Pole", "NZ", "Pacific/Auckland"]),
  (⟨0, some ⟨7200, ⟨3, 5, 0, 3600⟩, ⟨10, 5, 0, 10800⟩⟩⟩, ["Antarctica/Troll"]),
  (⟨43200, none⟩, ["Asia/Anadyr", "Asia/Kamchatka", "Etc/GMT-12", "Kwajalein", "Pacific/Fiji",
    "Pacific/Funafuti", "Pacific/Kwajalein", "Pacific/Majuro", "Pacific/Nauru", "Pacific/Tarawa",
    "Pacific/Wake", "Pacific/Wallis"]),
  (⟨14400, none⟩, ["Asia/Baku", "Asia/Dubai", "Asia/Muscat", "Asia/Tbilisi", "Asia/Yerevan",
    "Etc/GMT-4", "Europe/Astrakhan", "Europe/Samara", "Europe/Saratov", "Europe/Ulyanovsk",
    "Indian/Mahe", "Indian/Mauritius", "Indian/Reunion"]),
  (⟨7200, some ⟨10800, ⟨3, 5, 0, 0⟩, ⟨10, 5, 0, 0⟩⟩⟩, ["Asia/Beirut"]),
  (⟨21600, none⟩, ["Asia/Bishkek", "Asia/Dacca", "Asia/Dhaka", "Asia/Kashgar", "Asia/Omsk",
    "Asia/Thimbu", "Asia/Thimphu", "Asia/Urumqi", "Etc/GMT-6", "Indian/Chagos"]),
  (⟨32400, none⟩, ["Asia/Chita", "Asia/Dili", "Asia/Jayapura", "Asia/Khandyga", "Asia/Pyongyang",
    "Asia/Seoul", "Asia/Yakutsk", "Etc/GMT-9", "Pacific/Palau", "ROK"]),
  (⟨19800, none⟩, ["Asia/Colombo"]),
  (⟨7200, some ⟨10800, ⟨3, 5, 0, 10800⟩, ⟨10, 5, 0, 14400⟩⟩⟩, ["Asia/Famagusta", "Asia/Nicosia",
    "EET", "Europe/Athens", "Europe/Bucharest", "Europe/Chisinau", "Europe/Helsinki",
    "Europe/Kiev", "Europe/Kyiv", "Europe/Mariehamn", "Europe/Nicosia", "Europe/Riga",
    "Europe/Sofia", "Europe/Tallinn", "Europe/Tiraspol", "Europe/Uzhgorod", "Europe/Vilnius",
    "Europe/Zaporozhye"]),
  (⟨7200, some ⟨10800, ⟨3, 4, 4, 180000⟩, ⟨10, 4, 4, 180000⟩⟩⟩, ["Asia/Gaza", "Asia/Hebron"]),
  (⟨7200, some ⟨10800, ⟨3, 4, 4, 93600⟩, ⟨10, 5, 0, 7200⟩⟩⟩, ["Asia/Jerusalem", "Asia/Tel_Aviv",
    "Israel"]),
  (⟨16200, none⟩, ["Asia/Kabul"]),
  (⟨39600, none⟩, ["Asia/Magadan", "Asia/Sakhalin", "Asia/Srednekolymsk", "Etc/GMT-11",
    "Pacific/Bougainville", "Pacific/Efate", "Pacific/Guadalcanal", "Pacific/Kosrae",
    "Pacific/Noumea", "Pacific/Pohnpei", "Pacific/Ponape"]),
  (⟨23400, none⟩, ["Asia/Rangoon", "Asia/Yangon", "Indian/Cocos"]),
  (⟨12600, none⟩, ["Asia/Tehran", "Iran"]),
  (⟨-3600, some ⟨0, ⟨3, 5, 0, 0⟩, ⟨10, 5, 0, 3600⟩⟩⟩, ["Atlantic/Azores"]),
  (⟨0, some ⟨3600, ⟨3, 5, 0, 3600⟩, ⟨10, 5, 0, 7200⟩⟩⟩, ["Atlantic/Canary", "Atlantic/Faeroe",
    "Atlantic/Faroe", "Atlantic/Madeira", "Eire", "Europe/Dublin", "Europe/Guernsey",
    "Europe/Isle_of_Man", "Europe/Jersey", "Europe/Lisbon", "Portugal", "WET"]),
  (⟨-3600, none⟩, ["Atlantic/Cape_Verde", "Etc/GMT+1"]),
  (⟨34200, some ⟨37800, ⟨10, 1, 0, 7200⟩, ⟨4, 1, 0, 10800⟩⟩⟩, ["Australia/Adelaide",
    "Australia/Broken_Hill", "Australia/South", "Australia/Yancowinna"]),
  (⟨34200, none⟩, ["Australia/Darwin", "Australia/North"]),
  (⟨31500, none⟩, ["Australia/Eucla"]),
  (⟨-21600, some ⟨-18000, ⟨9, 1, 6, 79200⟩, ⟨4, 1, 6, 79200⟩⟩⟩, ["Chile/EasterIsland",
    "Pacific/Easter"]),
  (⟨-36000, none⟩, ["Etc/GMT+10", "HST", "Pacific/Honolulu", "Pacific/Johnston",
    "Pacific/Rarotonga", "Pacific/Tahiti", "US/Hawaii"]),
  (⟨-39600, none⟩, ["Etc/GMT+11", "Pacific/Midway", "Pacific/Niue"]),
  (⟨-43200, none⟩, ["Etc/GMT+12"]),
  (⟨-28800, none⟩, ["Etc/GMT+8", "Pacific/Pitcairn"]),
  (⟨-32400, none⟩, ["Etc/GMT+9", "Pacific/Gambier"]),
  (⟨46800, none⟩, ["Etc/GMT-13", "Pacific/Apia", "Pacific/Enderbury", "Pacific/Fakaofo",
    "Pacific/Kanton", "Pacific/Tongatapu"]),
  (⟨50400, none⟩, ["Etc/GMT-14"]),
  (⟨45900, some ⟨49500, ⟨9, 5, 0, 9900⟩, ⟨4, 1, 0, 13500⟩⟩⟩, ["NZ-CHAT", "Pacific/Chatham"]),
  (⟨-34200, none⟩, ["Pacific/Marquesas"]),
  (⟨39600, some ⟨43200, ⟨10, 1, 0, 7200⟩, ⟨4, 1, 0, 10800⟩⟩⟩, ["Pacific/Norfolk"])]

end DueReminders.Zone.Current
