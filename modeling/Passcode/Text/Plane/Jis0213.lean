import Passcode.Text.Plane

/-!
# JIS X 0213

The characters of JIS X 0213, in the edition of 2004, by row and cell from 0x21 on: what its
first plane has besides JIS X 0208, and its second plane. Some cells of the first plane stand
for two characters.
-/

namespace Passcode.Text.Plane

/-- The characters of the first plane that are not in JIS X 0208. -/
def jis0213First : Plane :=
  [⟨0x22, 0x2F, "＇＂－~〳〴〵〻〼ヿゟ"⟩,
   ⟨0x22, 0x42, "⊄⊅⊊⊋∉∅⌅⌆"⟩,
   ⟨0x22, 0x51, "⊕⊖⊗∥∦⦅⦆〘〙〖〗"⟩,
   ⟨0x22, 0x6B, "≢≃≅≈≶≷↔"⟩,
   ⟨0x22, 0x7A, "♮♫♬♩"⟩,
   ⟨0x23, 0x21, "▷▶◁◀↗↘↖↙⇄⇨⇦⇧⇩⤴⤵"⟩,
   ⟨0x23, 0x3A, "⦿◉〽﹆﹅◦•"⟩,
   ⟨0x23, 0x5B, "∓ℵℏ㏋ℓ℧"⟩,
   ⟨0x23, 0x7B, "゠–⧺⧻"⟩,
   ⟨0x24, 0x74, "ゔゕゖ"⟩,
   ⟨0x26, 0x39, "♤♠♢♦♡♥♧♣"⟩,
   ⟨0x26, 0x59, "ς⓵⓶⓷⓸⓹⓺⓻⓼⓽⓾☖☗〠☎☀☁☂☃♨▱ㇰㇱㇲㇳㇴㇵㇶㇷㇸㇹ�ㇺㇻㇼㇽㇾㇿ"⟩,
   ⟨0x27, 0x42, "⎾⎿⏀⏁⏂⏃⏄⏅⏆⏇⏈⏉⏊⏋⏌"⟩,
   ⟨0x27, 0x72, "ヷヸヹヺ⋚⋛⅓⅔⅕✓⌘␣⏎"⟩,
   ⟨0x28, 0x41, "㉑㉒㉓㉔㉕㉖㉗㉘㉙㉚㉛㉜㉝㉞㉟㊱㊲㊳㊴㊵㊶㊷㊸㊹㊺㊻㊼㊽㊾㊿"⟩,
   ⟨0x28, 0x67, "◐◑◒◓‼⁇⁈⁉ǍǎǐḾḿǸǹǑǒǔǖǘǚǜ"⟩,
   ⟨0x29, 0x21, "€\u00A0¡¤¦©ª«\u00AD®¯²³·¸¹º»¼½¾¿ÀÁÂÃÄÅÆÇÈÉÊËÌÍÎÏÐÑÒÓÔÕÖØÙÚÛÜÝÞßàáâãäåæçèéêëìíî"
      ++ "ïðñòóôõöøùúûüýþÿĀĪŪĒŌāīūēō"⟩,
   ⟨0x2A, 0x21, "Ą˘ŁĽŚŠŞŤŹŽŻą˛łľśˇšşťź˝žżŔĂĹĆČĘĚĎŃŇŐŘŮŰŢŕăĺćčęěďđńňőřůűţ˙ĈĜĤĴŜŬĉĝĥĵŝŭɱʋɾʃʒɬɮɹʈɖ"
      ++ "ɳɽʂʐɻɭɟɲʝʎɡŋɰʁħʕ"⟩,
   ⟨0x2B, 0x21, "ʔɦʘǂɓɗʄɠƓœŒɨʉɘɵəɜɞɐɯʊɤʌɔɑɒʍɥʢʡɕʑɺɧɚ�ǽὰά"⟩,
   ⟨0x2B, 0x50, "ὲέ\u0361ˈˌːˑ\u0306‿\u030B\u0301\u0304\u0300\u030F\u030C\u0302˥˦˧˨˩��\u0325"
      ++ "\u032C\u0339\u031C\u031F\u0320\u0308\u033D\u0329\u032F˞\u0324\u0330\u033C"
      ++ "\u0334\u031D\u031E\u0318\u0319\u032A\u033A\u033B\u0303\u031A"⟩,
   ⟨0x2C, 0x21, "❶❷❸❹❺❻❼❽❾❿⓫⓬⓭⓮⓯⓰⓱⓲⓳⓴ⅰⅱⅲⅳⅴⅵⅶⅷⅸⅹⅺⅻⓐⓑⓒⓓⓔⓕⓖⓗⓘⓙⓚⓛⓜⓝⓞⓟⓠⓡⓢⓣⓤⓥⓦⓧⓨⓩ㋐㋑㋒㋓㋔㋕㋖㋗㋘㋙㋚㋛㋜㋝㋞㋟㋠㋡㋢㋣"
      ++ "㋺㋩㋥㋭㋬"⟩,
   ⟨0x2C, 0x7D, "⁑⁂"⟩,
   ⟨0x2D, 0x21, "①②③④⑤⑥⑦⑧⑨⑩⑪⑫⑬⑭⑮⑯⑰⑱⑲⑳ⅠⅡⅢⅣⅤⅥⅦⅧⅨⅩⅪ㍉㌔㌢㍍㌘㌧㌃㌶㍑㍗㌍㌦㌣㌫㍊㌻㎜㎝㎞㎎㎏㏄㎡Ⅻ"⟩,
   ⟨0x2D, 0x5F, "㍻〝〟№㏍℡㊤㊥㊦㊧㊨㈱㈲㈹㍾㍽㍼���∮����∟⊿���❖☞"⟩,
   ⟨0x2E, 0x21, "俱𠀋㐂丨丯丰亍仡份仿伃伋你佈佉佖佟佪佬佾侊侔侗\uFA30俉俠倁倂倎倘倧倮偀倻偁傔僌僲僐僦\uFA31儆儃儋儞儵兊\uFA32兕兗㒵冝凃凊凞凢凮刁㓛刓刕剉剗"
      ++ "剡劓勈\uFA33勌勐勖勛\uFA34勰勻匀匇匜\uFA35卡卣卽厓厝厲吒吧呍咜呫呴呿咈咖咡"⟩,
   ⟨0x2F, 0x21, "咩哆哿唎唫唵啐啞喁喆喎\uFA36喭嗎\uFA37嘈嘎嘻噉噶噦\uFA38噯噱噲嚙嚞嚩嚬嚳囉囊圊𡈽圡圯圳圴坰坷坼垜\uFA0F𡌛垸埇埈埏埤埭埵埶埿堉"
      ++ "\uFA10塡塤\uFA39塼墉增\uFA3A墩𡑮壒壎壔壚壠壩夌虁奝奭妋妒妤姃姒姝娓娣婧婭婷婾媄媞媧嫄𡢽嬙嬥剝"⟩,
   ⟨0x4F, 0x54, "𠮟孁孖孽宓寘寬尒尞尣尫㞍屢\uFA3B\uFA3C𡚴屺岏岟岣岪岺峋峐峒峴𡸴㟢崍崧\uFA11嵆嵇嵓嵊嵭嶁嶠嶤嶧嶸巋吞"⟩,
   ⟨0x74, 0x27, "噓巢帔帘幘幞庾\uF928廋廹开异弇弝弣弴弶弽彀彅彔彘彤彧彽徉徜徧徯徵德忉忞忡忩怍怔怘怳怵恇\uFA3D悝悞惋惔惕惝惸愜愫愰愷\uFA3E憍\uFA3F憼憹"
      ++ "\uFA40戢戾扃扖扚扯抅拄拖拼挊挘挹捃捥捼揥揭揵搐搔搢摹摑摠摭擎撾撿"⟩,
   ⟨0x75, 0x21, "擄擊擐擷擻攢攩\uFA41敧斝\uFA42昀昉昕昞昺昢昤昫昰昱昳曻晈晌𣇄晙晚晡晥晳晷晸暍\uFA43暠暲暻曆曈㬢曛曨曺朓\uF929朳杦杇杈杻极枓枘枛枻柹柀"
      ++ "柗柼栁桒栝栬栱桛桲桵\uFA44梣梥梲棈棐棨棭棰棱棼椊楉𣗄椵楂楗楣楤楨榀\uFA14榥榭槏㮶"⟩,
   ⟨0x76, 0x21, "㯃槢槩槪槵槶樏樕𣜿樻樾橅橐橖橛橫橳𣝣檉檔檝檞檥櫤櫧㰏\uF91D欛欞欬欵歆歖歠步歧歷殂殩殭\uF970每毖毗毿氅氐氳汙汜沪汴汶沅沆沘沜泻泆泔泠泫泮𣳾洄洎洮洱"
      ++ "洹洿浘浥\uFA45涂涇涉涔涪涬涿淄淖淚淛淝淼\uFA46渴湄湜湞溫溱滁"⟩,
   ⟨0x77, 0x21, "滇滎漐漚\uFA47漪漯漳潑潙潞潡潢潾澈澌澍澔澠澧澶澼濇濊濹濰濵瀅瀆瀨灊灝灞灎灤灵炅炤炫炷烔烘烤焏焫焞焠焮焰煆煇煑\uFA48煒煜煠煨\uFA15熅熇熒燁熺"
      ++ "燄燾爀爕牕牖㸿犍犛犾狀狻𤟱猧猨\uFA16獐獦獼玕玟玠玢玦玫珉珏珖珙珣珩"⟩,
   ⟨0x78, 0x21, "琇琊琚琛\uFA4A琦琨琪琫琬琮琯琰瑄瑆瑇瑋瑗瑢瑫瑭璆璇璉璘璜璟璣璐璦璨璩璵璿瓈瓉瓚瓿甁甗甯畯畹疒㽲痎痤瘀瘂瘈瘕瘖瘙瘞瘭瘵癃癋癤癥癭癯癱皁皛皝皞皦皪皶盅盌盎"
      ++ "盔盦盱盼眊眙眴眶睆睍睎睜睟睢睺瞀瞔瞪矠砭𥒎"⟩,
   ⟨0x79, 0x21, "硃硎硏硑硨确\uFA4B碰𥔎碭磤磲礀磷礜礮礱礴\uFA4C\uFA4D祅祆\uFA4E\uFA4F\uFA50祜\uFA51\uFA19\uFA1A祹"
      ++ "\uFA52\uFA53\uFA1B禘禱禸秈秊𥝱秔秞秫秭稃\uFA54稹穝穭\uFA55窅窠𥧄窳窻竎竫竽笒笭笻筇筎筠筭筯筲箞\uFA56篗篙簁簱簞簠簳簶䉤𥶡"
      ++ "籙籭籹粏粔粠粼糕糙糝紇紈紓紝紣紱"⟩,
   ⟨0x7A, 0x21, "絁絈絓絜絺綃綋綠綦緂緌緖緣\uFA57縨縈縑縕\uFA59繇繒繡纊纍罇\uFA5A羑羗羿翎翛翟翬翮翺\uFA5B耔耦耵耷耼胊胗胠胳脘腊腠腧腨腭膻臊臏臗"
      ++ "\uFA5C䑓䑛艠艴𦫿芎芡芣芤芩芮芷芾芿苆苕苽苾茀茁荢茢茭茺荃荇荑荕荽莆莒莘莧莩莿菀菇菏"⟩,
   ⟨0x7B, 0x21, "菑菡菪萁萆萊\uFA5F葈葟葰葳蒅蒞蒯蒴蒺蓀蓂𦹀蔲蔞蔣蔯蕙蕤\uFA1F薭蕺薌薏薢薰藋藎藭蘒藿蘄蘅蘐𧃴蘘蘩蘸虗虛\uF936虢䖝虬虵蚘蚸蛺蛼蛽蜋蝱螇螈螬螭螵"
      ++ "䗪蟖蟬蠆蠊蠐蠔蠟袘袪裊裎𧚄裵褜\uFA60褘褙褚褧褰褲褹襀覔\uFA61觔觥觶訒訕"⟩,
   ⟨0x7C, 0x21, "訢訷詇詎詝詡詵詹誧諐諟諴諶\uFA22\uFA62\uFA63譆譔譙譩讝豉豨\uFA64賡賴賸賾\uFA65贒贛趯跎跑跗踠踣踽蹰蹻𨉷軀䡄軺輞輭輶轔𨏍辦辵迤迨"
      ++ "迮逈逭\uFA67邈邕邗邙邛邢邳邾郄郅郇郗郝郞郯郴\uFA26鄔鄕鄖鄢鄣鄧鄯鄱鄴鄽酈酛醃醞醬醱醼釗釻釤"⟩,
   ⟨0x7D, 0x21, "釥釭釱鈇鈐鈸鈹鈺鈼鉀鉃鉏鉸銈鋂鋋鋌鋓鋠鋿錄錟錡錥鍈鍉鍊鍤鍥鍪鍰鎛鎣鎺鏆鏞鏟鐄鏽鐳鑊鑣鑫鑱鑲閎閟閦閩閬閶閽闋闐闓䦰闚闞陘隄\uF9DC隝隤隥雒雞\uFA68雩"
      ++ "雯霳霻靍靎靏靚靮靳鞕鞮鞺韁韉韞韛韴\uFA69頊頞頫頰\uFA6A顒顓顖"⟩,
   ⟨0x7E, 0x21, "顗顙顚\uF9D0顥顬颺飈飧饘馞騂騃騤騭騮騸驊驎驒骶髁髃髎髖髹鬂鬈鬠䰗鬭魞魹魦魲魵鮄鮊鮏鮞鮧鯁鯎鯥鯸鯽鰀鰣鱁鱏鱐鱓鱣鱥鱷鴝鴞鵃鵇鵒鵣鵰鵼鶊鶖鷀鶬鶼鷗𪆐鷧鸇鸕"
      ++ "鹼麞麤麬麯麴麵黃黑鼐鼹齗龐龔龗龢姸屛幷瘦繫"⟩]

def jis0213Second : Plane :=
  [⟨0x21, 0x21, "𠂉丂丏丒丩丫丮乀乇么𠂢乑㐆𠂤乚乩亝㐬㐮亹亻𠆢亼仃仈仐仫仚仱仵伀伖佤伷伾佔佘𠈓佷佸佺佽侂侅侒侚俦侲侾俅俋俏俒㑪俲倀倐倓倜倞倢㑨偂偆偎偓偗偣偦偪偰傣傈傒傓傕傖傜"
      ++ "傪𠌫傱傺傻僄僇僳𠎁僎𠍱僔僙僡僩㒒"⟩,
   ⟨0x23, 0x21, "儈𠏹儗儛𠑊兠𠔉关冃冋㒼冘冣冭㓇冼𠗖𠘨凳凴刂划刖𠝏剕剜剬剷劄劂𠠇劘𠠺劤劦劯劺劻勊㔟勑𠢹勷匊匋匤匵匾卂𠥼𠦝卧卬卺厤厴𠫓厷叀𠬝㕝㕞叕叚㕣叴叵呕吤吨㕮呃呢呦呬咊咍咕"
      ++ "咠咦咭咮咷咺咿哃𠵅哬哯哱哳唀唁唉"⟩,
   ⟨0x24, 0x21, "唼啁㖦啇啊㖨啠啡啤𠷡啽喂喈喑㗅嗒𠺕𠹭喿嗉嗌嗑嗝㗚嗢𠹤嗩嘨𠽟嘇嘐嘰嘷㗴嘽嘿噀噇噞噠噭㘅嚈嚌嚕嚚嚝嚨嚭嚲囅囍囟囨囶囷𡈁圕圣𡉕圩𡉻坅坆坌坍𡉴坨坯坳坴坵坻𡋤𡋗垬垚垝"
      ++ "垞垨埗𡋽埌𡌶𡍄埞埦埰㙊埸埻埽堄堞"⟩,
   ⟨0x25, 0x21, "堠堧堲堹𡏄塉塌塧墊墋墍墏墐墔墝墪墱𡑭壃壍壢壳壴夅夆夋复夔夤𡗗㚑夽㚙奆㚖𦰩奛奟𡙇奵奶奼妟妮妼姈姍姞姣姤姧姮𡜆𡝂㛏娌娍娗娧娭婕婥婺媋媜媟媠媢媱媳媵媺媿嫚嫜嫠嫥嫰"
      ++ "嫮嫵嬀嬈嬗嬴嬭孌孒孨孯孼孿宁宄𡧃"⟩,
   ⟨0x28, 0x21, "宖宬㝡寀㝢寎寖㝬㝫寱寽㝵尃尩尰𡱖屟屣屧屨屩屰𡴭𡵅屼𡵸𡵢岈岊㟁𡶡𡶜岠岢岦岧𡶒岭岵𡶷峉𡷠𡸳崆崐崫崝崠崤崦崱崹嵂㟨嵡嵪㟴嵰𡼞㟽嶈㠀嶒嶔嶗嶙嶰嶲嶴𡽶嶹巑巗巘巠𡿺巤巩"
      ++ "㠯帀㠶帒帕㡀帟帮帾幉㡜幖㡡幫幬幭"⟩,
   ⟨0x2C, 0x21, "幮𢅻庥庪庬庹庿廆廒廙𢌞廽弈弎弜𢎭弞彇彣彲彾徏徢徤徸忄㣺忇忋忒忓忔忢忮忯忳忼㤗怗怢怤㤚恌恿悊悕您𢛳悰悱悾惈惙惛惮惲惵愐愒愓愙愞愺㥯慁慆慠慼𢡛憒憓憗憘憥憨憭𢢫懕"
      ++ "懝懟懵𢦏戕戣戩扆扌扑扒扡扤扻扭扳"⟩,
   ⟨0x2D, 0x21, "抙抦拕𢪸拽挃挍挐𢭏𢭐挲挵挻挼捁捄捎𢭆捙𢰝𢮦捬掄掙𢰤掔掽揷揔揕揜揠揫揬揲搉搞搥搩搯摚摛摝摳摽撇撑撝撟擋擌擕擗𢷡擤擥擿攄㩮攏攔攖㩳攞攲敄敔敫敺斁斄斅斊斲斵斸斿旂"
      ++ "旉旔㫖旲旹旼昄昈昡昪晅晑晎㫪𣇃晗"⟩,
   ⟨0x2E, 0x21, "晛晣𣇵𣆶晪晫晬晭晻暀暐暒暙㬎暭暱暵㬚暿㬜曬㫗朁朅朒𣍲朙𣏓𣏒杌杍杔杝𣏐𣏤𣏕杴杶𣏚枒𣏟荣栐枰枲柃柈柒柙柛柰柷𣑊𣑑𣑋栘栟栭𣑥栳栻栾桄桅桉桌桕桗㭷桫桮桺桼梂梐梖㭭梘"
      ++ "梙梚梜梪梫梴梻棻𣓤𣕚\uFA13棃棅棌棏棖"⟩,
   ⟨0x2F, 0x21, "棙棤棥棬棷椃椇㮇㮈𣖔椻㮍楆楩楬楲楺楿榒㮤榖榘榦榰榷榺榼槀槑槖𣘹𣙇樰𣘸𣘺槣槮槯槳㯍槴槾樑樚樝𣜜樲樳樴樿橆橉橺橎橒橤𣜌橾檃檋㯰檑檟檡𣝤檫檽櫆櫔櫐櫜櫝𣟿𣟧櫬櫱櫲櫳"
      ++ "櫽𣠤欋欏欐欑𣠽欗㰦欯歊歘歬歵歺殁"⟩,
   ⟨0x6E, 0x21, "殛殮𣪘殽殾毇毈毉毚毦毧毮毱氂氊氎氵氶氺𣱿氿汍汛汭沄沉㳃沔沕沗沭泂泐㳒泖泚泜泩泬泭𣴀洀洊洤洦洧汧洯洼浛浞浠浰涀涁涊涍涑涘𣵀渗𣷺𣷹𣷓涫涮涴淂洴淈淎淏淐淟淩淶渶渞"
      ++ "渢渧㴑渲渼湈湉湋湌湏湑湓湔湗湣㴞"⟩,
   ⟨0x6F, 0x21, "溓溧溴溿滃滊滙漵滫滹滻漊漌漘漥漶漼𣽾潒潗潚潠潨澘潽澐澖澾澟澥澯㵤澵濈濉濚濞濩𤂖濼瀀瀇瀊瀣𤄃瀹瀺瀼灃灇灋㶚灔灥灩灬灮灶灾炁炆炕炗炻𤇆炟炱𤇾烬烊烑烓烜焃焄焆焇焈"
      ++ "焌㷀焯焱煐煊煓煞㷔熖熀熛熠熢熮熯"⟩,
   ⟨0x70, 0x21, "熳𤎼燋燓燙燜爇㸅\uFA49爫爴爸爹丬牂牓牗牣𤘩牮牯牸牿犎𤚥犭犮犰犱狁㹠狌㹦㹨狳狺猇猒猘猙㺃猹猬猱猳猽獒㺔獫獬𤢖獮獯獱獷玁玅玊玔玘玜玞玥玨玵玷玹玼玿珅珋珡珧"
      ++ "珹琓珺琁琤琱琹瑓瑀瑃瑍瑒瑝瑱璁璅璈𤩍璒璗璙"⟩,
   ⟨0x71, 0x21, "璠璡璥璪璫璹璻璺瓖瓘瓞瓯瓫𤭖瓺𤭯甠甤甪㽗𤰖甽甾畀畈畎畐畒畬畲畱畺畽畾疁𤴔疌㽵疢㽷疰疷疿痀痆痏痓痝痟痠痧痬痮痱痹瘃瘘瘇瘏㾮𤸎瘓瘛瘜𤸷瘥瘨瘼瘳𤹪㿉癁𤺋癉癕㿗癮皕"
      ++ "皜皡皠皧皨皯𥁊盉𥁕盨盬𥄢眗眚眭眵"⟩,
   ⟨0x72, 0x21, "𥆩䀹𥇥𥇍睘睠睪𥈞睲睼睽𥉌䁘瞚瞟瞢瞤瞩矞矟矤矦矪矬䂓矰矴矻𥐮砅砆砉砍砙砡砬硇硤硪𥓙碊碔碤碝碞碟碻磈磌磎磕磠磡磦磹磺磻磾𥖧礐礛礰礥礻祊祘祛䄅祧祲禔禕禖禛禡禩禴离"
      ++ "秂秇秌种秖䅈𥞩𥞴䅏稊稑稕稛稞䅣稭"⟩,
   ⟨0x73, 0x21, "稸穇穌穖穙穜穟穠穧穪穵穸窂窊窐窣窬𥧔䆴窹窼窾䆿竌竑竧竨竴𥫤𥫣笇𥫱笽笧笪笮笯笱䇦䇳筿筁䇮筕筹筤筦筩筳𥮲䈇箐箑箛䈎箯箵箼篅篊𥱋𥱤篔篖篚篪篰簃簋簎簏簦籅籊籑籗籞籡"
      ++ "籩籮籯籰𥸮𥹖𥹥粦𥹢粶粷粿𥻘糄𥻂糈"⟩,
   ⟨0x74, 0x21, "糍𥻨糗𥼣糦糫𥽜糵紃紉䋆紒紞𥿠𥿔紽紾絀絇𦀌𥿻䋖絙絚絪絰䋝絿𦀗綆綈綌綗𦁠綝綧綪綶綷緀緗緙緦緱緹䌂𦃭\uFA58縐縗縝縠縧縬繅繳繵繾纆纇䌫纑纘纚䍃缼缻缾罃罄罏㓁𦉰"
      ++ "罒𦊆罡罣罤罭罽罾𦍌羐养𣴎羖羜羭𦐂翃翏翣翥翯"⟩,
   ⟨0x75, 0x21, "翲耂耊耈耎耑耖耤耬耰聃聦聱聵聻肙肜肤肧肸𦙾胅胕胘胦𦚰脍胵胻䏮脵脖脞䏰脤脧脬𦜝脽䐈腩䐗膁䐜膄膅䐢膘膲臁臃臖臛𦣝臤𦣪臬𦥑臽臿𦥯舄𦧝舙舡舢𦨞舲舴舼艆艉艅𦩘艋䑶艏䑺"
      ++ "艗𦪌艜艣𦪷\uFA5D\uFA5E艹䒑艽艿芃芊芓芧芨"⟩,
   ⟨0x76, 0x21, "芲芴芺芼苢苨苷茇茈茌荔茛茝茰茼荄荗䒾荿䓔䒳莍莔莕莛莝菉菐菔菝菥菹萏萑萕𦱳萗萹葊葏葑葒葙葚葜𦳝葥葶葸葼蒁䔍蓜蒗蒦蒾䔈蓎蓏蓓𦹥蓧蓪蓯蓰蓱蓺蓽蔌蔛蔤蔥蔫蔴蕏蕯䔥䕃"
      ++ "蔾蕑蕓蕞蕡蕢𦾔蕻蕽蕿薁薆薓薝薟𦿸"⟩,
   ⟨0x77, 0x21, "𦿶𦿷薷薼藇藊藘藙藟藡藦藶蘀蘑蘞蘡蘤蘧𧄍蘹蘼𧄹虀\uFA20虓虖虯虷虺蚇蚉蚍蚑蚜蚝蚨\uFA21蚱蚳蛁蛃蛑蛕蛗蛣蛦䖸蜅蜇蜎蜐蜓蜙蜟蜡蜣蜱蜺蜾蝀蝃蝑蝘蝤蝥蝲蝼𧏛"
      ++ "𧏚螧螉螋螓螠𧏾䗥螾𧐐蟁蟎蟵蟟𧑉蟣蟥蟦蟪蟫蟭蠁蠃蠋蠓蠨"⟩,
   ⟨0x78, 0x21, "蠮蠲蠼䘏衊衘衟衤𧘕𧘔衩𧘱衯袠袼袽袾裀裒𧚓裑裓裛裰裱䙁褁𧜎褷𧜣襂襅襉𧝒䙥襢覀覉覐覟覰覷觖觘觫䚡觱觳觽觿䚯訑訔𧦅訡訵訾詅詍詘誮誐誷誾諗諼𧪄謊謅謍謜謟謭譃䜌譑譞譶"
      ++ "譿讁讋讔讕讜讞谹𧮳谽𧮾𧯇豅豇豏豔"⟩,
   ⟨0x79, 0x21, "豗豩豭豳𧲸貓貒貙䝤貛貤賖賕賙𧶠賰賱𧸐贉贎赬趄趕趦𧾷跆跈跙跬踌䟽跽踆𨂊踔踖踡踢踧𨂻䠖踶踹蹋蹔蹢蹬蹭蹯躘躞躮躳躵躶躻𨊂軑軔䡎軹𨋳輀輈輗輫轀轊轘𨐌辤辴\uFA66"
      ++ "辶𨑕迁迆\uFA24迊迍迓迕迠迱迵迻适逌逷𨕫遃遄遝𨗈"⟩,
   ⟨0x7A, 0x21, "𨗉邅邌邐阝邡䢵邰邶郃郈𨛗郜郟𨛺郶郲鄀郫郾郿鄄鄆鄘鄜鄞鄷鄹鄺酆酇酗酙酡酤酴酹醅醎醨醮醳醶釃釄釚𨥉𨥆釬釮鈁鈊鈖鈗𨥫鈳鉂鉇鉊鉎鉑鉖鉙鉠鉡鉥鉧鉨𨦇𨦈鉼鉽鉿銉銍銗銙銟"
      ++ "銧銫𨦺𨦻銲銿鋀鋆鋎鋐鋗鋙鋥鋧錑𨨞"⟩,
   ⟨0x7B, 0x21, "𨨩鋷鋹鋻錂錍錕錝錞錧錩𨩱𨩃鍇鍑鍗鍚鍫鍱鍳鎡𨪙𨫍鎈鎋鎏鎞鏵𨫤𨫝鏱鏁鏇鏜鏢鏧鐉鐏鐖鐗鏻鐲鐴鐻鑅𨯁𨯯鑭鑯镸镹閆閌閍𨴐閫閴𨵱闈𨷻𨸟阬阳阴𨸶阼陁陡𨺉隂𨻫隚𨼲䧧隩隯隳隺"
      ++ "隽䧺𨿸雘雚雝䨄霔霣䨩霶靁靇靕靗靛"⟩,
   ⟨0x7C, 0x21, "靪𩊠𩊱鞖鞚鞞鞢鞱鞲鞾韌韑韔韘韙韡韱頄頍頎頔頖䪼𩒐頣頲頳頥顇顦颫颭颰𩗏颷颸颻颼颿飂飇飋飠𩙿飡飣飥飪飰飱飳餈䬻𩛰餖餗𩜙餚餛餜𩝐餱餲餳餺餻餼饀饁饆饍饎饜饟饠馣馦馹"
      ++ "馽馿駃駉駔駙駞𩣆駰駹駼騊騑騖騚騠"⟩,
   ⟨0x7D, 0x21, "騱騶驄驌驘䯂骯䯊骷䯒骹𩩲髆髐髒髕䯨髜髠髥髩鬃鬌鬐鬒鬖鬜鬫鬳鬽䰠魋魣魥魫魬魳魶魷鮦鮬鮱𩷛𩸽鮲鮸鮾鯇鯳鯘鯝鯧鯪鯫鯯鯮𩸕鯺𩺊鯷𩹉鰖鰘鰙鰚鰝鰢鰧鰩鰪𩻄鰱鰶鰷鱅鱜𩻩鱉"
      ++ "鱊𩻛鱔鱘鱛鱝鱟鱩鱪鱫鱭鱮鱰鱲鱵鱺"⟩,
   ⟨0x7E, 0x21, "鳦鳲鴋鴂𩿎鴑鴗鴘𪀯䳄𪀚鴲䳑鵂鵊鵟鵢𪃹鵩鵫𪂂鵳鵶鵷鵾鶄鶍鶙鶡鶿鶵鶹鶽鷃鷇鷉鷖鷚鷟鷠鷣鷴䴇鸊鸂鸍鸙鸜鸝鹻𢈘麀麅麛麨𪎌麽𪐷黟黧黮黿鼂䵷鼃鼗鼙鼯鼷鼺鼽齁齅齆齓齕齘𪗱"
      ++ "齝𪘂齩𪘚齭齰齵𪚲"⟩]

/-- The cells of the first plane that stand for two characters. -/
def jis0213Pairs : List (Nat × Nat × String) :=
  [(0x24, 0x77, "\u304B\u309A"), (0x24, 0x78, "\u304D\u309A"), (0x24, 0x79, "\u304F\u309A"),
   (0x24, 0x7A, "\u3051\u309A"), (0x24, 0x7B, "\u3053\u309A"), (0x25, 0x77, "\u30AB\u309A"),
   (0x25, 0x78, "\u30AD\u309A"), (0x25, 0x79, "\u30AF\u309A"), (0x25, 0x7A, "\u30B1\u309A"),
   (0x25, 0x7B, "\u30B3\u309A"), (0x25, 0x7C, "\u30BB\u309A"), (0x25, 0x7D, "\u30C4\u309A"),
   (0x25, 0x7E, "\u30C8\u309A"), (0x26, 0x78, "\u31F7\u309A"), (0x2B, 0x44, "\u00E6\u0300"),
   (0x2B, 0x48, "\u0254\u0300"), (0x2B, 0x49, "\u0254\u0301"), (0x2B, 0x4A, "\u028C\u0300"),
   (0x2B, 0x4B, "\u028C\u0301"), (0x2B, 0x4C, "\u0259\u0300"), (0x2B, 0x4D, "\u0259\u0301"),
   (0x2B, 0x4E, "\u025A\u0300"), (0x2B, 0x4F, "\u025A\u0301"), (0x2B, 0x65, "\u02E9\u02E5"),
   (0x2B, 0x66, "\u02E5\u02E9")]

end Passcode.Text.Plane
