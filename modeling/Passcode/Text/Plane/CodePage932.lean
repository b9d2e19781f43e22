import Passcode.Text.Plane

/-!
# Code page 932

Where code page 932 reads two octets otherwise than Shift JIS, or reads more.
-/

namespace Passcode.Text.Plane

/-- The characters in which code page 932 differs from Shift JIS. -/
def codePage932 : Plane :=
  [⟨0x81, 0x60, "～∥"⟩,
   ⟨0x81, 0x7C, "－"⟩,
   ⟨0x81, 0x91, "￠￡"⟩,
   ⟨0x81, 0xCA, "￢"⟩,
   ⟨0x87, 0x40, "①②③④⑤⑥⑦⑧⑨⑩⑪⑫⑬⑭⑮⑯⑰⑱⑲⑳ⅠⅡⅢⅣⅤⅥⅦⅧⅨⅩ�㍉㌔㌢㍍㌘㌧㌃㌶㍑㍗㌍㌦㌣㌫㍊㌻㎜㎝㎞㎎㎏㏄㎡"⟩,
   ⟨0x87, 0x7E, "㍻�〝〟№㏍℡㊤㊥㊦㊧㊨㈱㈲㈹㍾㍽㍼≒≡∫∮∑√⊥∠∟⊿∵∩∪"⟩,
   ⟨0xED, 0x40, "纊褜鍈銈蓜俉炻昱棈鋹曻彅丨仡仼伀伃伹佖侒侊侚侔俍偀倢俿倞偆偰偂傔僴僘兊兤冝冾凬刕劜劦勀勛匀匇匤卲厓厲叝\uFA0E咜咊咩哿喆坙坥垬埈埇\uFA0F�"
      ++ "\uFA10增墲夋奓奛奝奣妤妺孖寀甯寘寬尞岦岺峵崧嵓\uFA11嵂嵭嶸嶹巐弡弴彧德忞恝悅悊惞惕愠惲愑愷愰憘戓抦揵摠撝擎敎昀昕昻昉昮昞昤晥晗晙\uFA12晳暙"
      ++ "暠暲暿曺朎\uF929杦枻桒柀栁桄棏\uFA13楨\uFA14榘槢樰橫橆橳橾櫢櫤毖氿汜沆汯泚洄涇浯涖涬淏淸淲淼渹湜渧渼溿澈澵濵瀅瀇瀨炅炫焏焄煜煆煇"
      ++ "\uFA15燁燾犱"⟩,
   ⟨0xEE, 0x40, "犾猤\uFA16獷玽珉珖珣珒琇珵琦琪琩琮瑢璉璟甁畯皂皜皞皛皦\uFA17睆劯砡硎硤硺礰\uFA18\uFA19\uFA1A禔\uFA1B禛竑竧\uFA1C竫"
      ++ "箞\uFA1D絈絜綷綠緖繒罇羡\uFA1E茁荢荿菇菶葈蒴蕓蕙�蕫\uFA1F薰\uFA20\uFA21蠇裵訒訷詹誧誾諟\uFA22諶譓譿賰賴贒赶\uFA23"
      ++ "軏\uFA24\uFA25遧郞\uFA26鄕鄧釚釗釞釭釮釤釥鈆鈐鈊鈺鉀鈼鉎鉙鉑鈹鉧銧鉷鉸鋧鋗鋙鋐\uFA27鋕鋠鋓錥錡鋻\uFA28錞鋿錝錂鍰鍗鎤鏆鏞鏸鐱鑅"
      ++ "鑈閒\uF9DC\uFA29隝隯霳霻靃靍靏靑靕顗顥\uFA2A\uFA2B餧\uFA2C馞驎髙髜魵魲鮏鮱鮻鰀鵰鵫\uFA2D鸙黑��ⅰⅱⅲⅳⅴⅵⅶⅷⅸⅹ￢￤"
      ++ "＇＂"⟩,
   ⟨0xFA, 0x40, "ⅰⅱⅲⅳⅴⅵⅶⅷⅸⅹⅠⅡⅢⅣⅤⅥⅦⅧⅨⅩ￢￤＇＂㈱№℡∵纊褜鍈銈蓜俉炻昱棈鋹曻彅丨仡仼伀伃伹佖侒侊侚侔俍偀倢俿倞偆偰偂傔僴僘兊�兤冝冾凬刕劜劦勀勛匀匇匤卲厓"
      ++ "厲叝\uFA0E咜咊咩哿喆坙坥垬埈埇\uFA0F\uFA10增墲夋奓奛奝奣妤妺孖寀甯寘寬尞岦岺峵崧嵓\uFA11嵂嵭嶸嶹巐弡弴彧德忞恝悅悊惞惕愠惲愑愷愰憘戓"
      ++ "抦揵摠撝擎敎昀昕昻昉昮昞昤晥晗晙\uFA12晳暙暠暲暿曺朎\uF929杦枻桒柀栁桄棏\uFA13楨\uFA14榘槢樰橫橆橳橾櫢櫤毖氿汜沆汯泚洄涇浯"⟩,
   ⟨0xFB, 0x40, "涖涬淏淸淲淼渹湜渧渼溿澈澵濵瀅瀇瀨炅炫焏焄煜煆煇\uFA15燁燾犱犾猤\uFA16獷玽珉珖珣珒琇珵琦琪琩琮瑢璉璟甁畯皂皜皞皛皦\uFA17睆劯砡硎硤硺礰"
      ++ "\uFA18\uFA19�\uFA1A禔\uFA1B禛竑竧\uFA1C竫箞\uFA1D絈絜綷綠緖繒罇羡\uFA1E茁荢荿菇菶葈蒴蕓蕙蕫\uFA1F薰"
      ++ "\uFA20\uFA21蠇裵訒訷詹誧誾諟\uFA22諶譓譿賰賴贒赶\uFA23軏\uFA24\uFA25遧郞\uFA26鄕鄧釚釗釞釭釮釤釥鈆鈐鈊鈺鉀鈼鉎鉙鉑"
      ++ "鈹鉧銧鉷鉸鋧鋗鋙鋐\uFA27鋕鋠鋓錥錡鋻\uFA28錞鋿錝錂鍰鍗鎤鏆鏞鏸鐱鑅鑈閒\uF9DC\uFA29隝隯霳霻靃靍靏靑靕顗顥\uFA2A\uFA2B餧"
      ++ "\uFA2C馞驎髙"⟩,
   ⟨0xFC, 0x40, "髜魵魲鮏鮱鮻鰀鵰鵫\uFA2D鸙黑"⟩]

end Passcode.Text.Plane
