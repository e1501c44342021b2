import ReportMigration.Wording.Constant
/-!
Templates for slicers, text boxes, cards and buttons.
-/
namespace ReportMigration.Wording

/-- Slicers, text boxes, cards and buttons. -/
def controls : List (String × Constant) := [
  ("slicer_template", .joined [
    "\x7b\x7b \"name\": \"\x7bvisual_config_name\x7d\", \"layouts\": [ \x7b\x7b \"id\": 0, ",
    "\"position\": \x7b\x7b \"x\": \x7bx\x7d, \"y\": \x7by\x7d, \"z\": \x7bz\x7d, \"width\": ",
    "\x7bwidth\x7d, \"height\": \x7bheight\x7d, \"tabOrder\": 5000 \x7d\x7d \x7d\x7d ], ",
    "\"singleVisual\": \x7b\x7b \"visualType\": \"slicer\", \"projections\": \x7b\x7b \"Values\":",
    " [ \x7b\x7b \"queryRef\": \"\x7bvalue_queryref\x7d\", \"active\": true \x7d\x7d ] \x7d\x7d, ",
    "\"prototypeQuery\": \x7b\x7b \"Version\": 2, \"From\": \x7bfrom_list\x7d, \"Select\": ",
    "\x7bselect_list\x7d \x7d\x7d, \"drillFilterOtherVisuals\": true, \"hasDefaultSort\": true, ",
    "\"objects\": \x7b\x7b \"data\": [ \x7b\x7b \"properties\": \x7b\x7b \"mode\": \x7b\x7b ",
    "\"expr\": \x7b\x7b \"Literal\": \x7b\x7b \"Value\": \"'\x7bmode_value\x7d'\" \x7d\x7d \x7d",
    "\x7d \x7d\x7d \x7d\x7d \x7d\x7d ], \"header\": [ \x7b\x7b \"properties\": \x7b\x7b \"show\":",
    " \x7b\x7b \"expr\": \x7b\x7b \"Literal\": \x7b\x7b \"Value\": \"false\" \x7d\x7d \x7d\x7d ",
    "\x7d\x7d \x7d\x7d \x7d\x7d ], \"items\": [ \x7b\x7b \"properties\": \x7b\x7b ",
    "\"outlineStyle\": \x7b\x7b \"expr\": \x7b\x7b \"Literal\": \x7b\x7b \"Value\": \"0D\" \x7d",
    "\x7d \x7d\x7d \x7d\x7d \x7d\x7d \x7d\x7d ], \"general\": [ \x7b\x7b \"properties\": ",
    "\x7b\x7b \"outlineWeight\": \x7b\x7b \"expr\": \x7b\x7b \"Literal\": \x7b\x7b \"Value\": ",
    "\"1D\" \x7d\x7d \x7d\x7d \x7d\x7d \x7d\x7d \x7d\x7d ] \x7d\x7d, \"vcObjects\": \x7b\x7b ",
    "\"title\": [ \x7b\x7b \"properties\": \x7b\x7b \"show\": \x7b\x7b \"expr\": \x7b\x7b ",
    "\"Literal\": \x7b\x7b \"Value\": \"true\" \x7d\x7d \x7d\x7d \x7d\x7d, \"text\": \x7b\x7b ",
    "\"expr\": \x7b\x7b \"Literal\": \x7b\x7b \"Value\": \"'\x7btitle_text\x7d'\" \x7d\x7d \x7d",
    "\x7d \x7d\x7d \x7d\x7d \x7d\x7d ], \"background\": [ \x7b\x7b \"properties\": \x7b\x7b ",
    "\"show\": \x7b\x7b \"expr\": \x7b\x7b \"Literal\": \x7b\x7b \"Value\": \"false\" \x7d\x7d ",
    "\x7d\x7d \x7d\x7d, \"color\": \x7b\x7b \"solid\": \x7b\x7b \"color\": \x7b\x7b \"expr\": ",
    "\x7b\x7b \"ThemeDataColor\": \x7b\x7b \"ColorId\": 0, \"Percent\": 0 \x7d\x7d \x7d\x7d \x7d",
    "\x7d \x7d\x7d \x7d\x7d \x7d\x7d \x7d\x7d ], \"visualHeader\": [ \x7b\x7b \"properties\": ",
    "\x7b\x7b \"border\": \x7b\x7b \"solid\": \x7b\x7b \"color\": \x7b\x7b \"expr\": \x7b\x7b ",
    "\"Literal\": \x7b\x7b \"Value\": \"'#252423'\" \x7d\x7d \x7d\x7d \x7d\x7d \x7d\x7d \x7d\x7d,",
    " \"show\": \x7b\x7b \"expr\": \x7b\x7b \"Literal\": \x7b\x7b \"Value\": \"false\" \x7d\x7d ",
    "\x7d\x7d \x7d\x7d \x7d\x7d \x7d\x7d ], \"border\": [ \x7b\x7b \"properties\": \x7b\x7b ",
    "\"show\": \x7b\x7b \"expr\": \x7b\x7b \"Literal\": \x7b\x7b \"Value\": \"true\" \x7d\x7d ",
    "\x7d\x7d \x7d\x7d, \"color\": \x7b\x7b \"solid\": \x7b\x7b \"color\": \x7b\x7b \"expr\": ",
    "\x7b\x7b \"Literal\": \x7b\x7b \"Value\": \"'\x7bborder_color\x7d'\" \x7d\x7d \x7d\x7d \x7d",
    "\x7d \x7d\x7d \x7d\x7d \x7d\x7d \x7d\x7d ] \x7d\x7d \x7d\x7d \x7d\x7d"]),
  ("singleValue_slicer_template", .joined [
    "\x7b\x7b \"name\": \"\x7bvisual_config_name\x7d\", \"layouts\": [ \x7b\x7b \"id\": 0, ",
    "\"position\": \x7b\x7b \"x\": \x7bx\x7d, \"y\": \x7by\x7d, \"z\": \x7bz\x7d, \"width\": ",
    "\x7bwidth\x7d, \"height\": \x7bheight\x7d, \"tabOrder\": 5000 \x7d\x7d \x7d\x7d ], ",
    "\"singleVisual\": \x7b\x7b \"visualType\": \"slicer\", \"projections\": \x7b\x7b \"Values\":",
    " [ \x7b\x7b \"queryRef\": \"\x7bvalue_queryref\x7d\", \"active\": true \x7d\x7d ] \x7d\x7d, ",
    "\"prototypeQuery\": \x7b\x7b \"Version\": 2, \"From\": \x7bfrom_list\x7d, \"Select\": ",
    "\x7bselect_list\x7d \x7d\x7d, \"drillFilterOtherVisuals\": true, \"hasDefaultSort\": true, ",
    "\"objects\": \x7b\x7b \"data\": [ \x7b\x7b \"properties\": \x7b\x7b \"mode\": \x7b\x7b ",
    "\"expr\": \x7b\x7b \"Literal\": \x7b\x7b \"Value\": \"'\x7bmode_value\x7d'\" \x7d\x7d \x7d",
    "\x7d \x7d\x7d \x7d\x7d \x7d\x7d ], \"header\": [ \x7b\x7b \"properties\": \x7b\x7b \"show\":",
    " \x7b\x7b \"expr\": \x7b\x7b \"Literal\": \x7b\x7b \"Value\": \"false\" \x7d\x7d \x7d\x7d ",
    "\x7d\x7d \x7d\x7d \x7d\x7d ], \"items\": [ \x7b\x7b \"properties\": \x7b\x7b ",
    "\"outlineStyle\": \x7b\x7b \"expr\": \x7b\x7b \"Literal\": \x7b\x7b \"Value\": \"0D\" \x7d",
    "\x7d \x7d\x7d \x7d\x7d \x7d\x7d \x7d\x7d ], \"general\": [ \x7b\x7b \"properties\": ",
    "\x7b\x7b \"outlineWeight\": \x7b\x7b \"expr\": \x7b\x7b \"Literal\": \x7b\x7b \"Value\": ",
    "\"1D\" \x7d\x7d \x7d\x7d \x7d\x7d, \"orientation\": \x7b\x7b \"expr\": \x7b\x7b \"Literal\":",
    " \x7b\x7b \"Value\": \"0D\" \x7d\x7d \x7d\x7d \x7d\x7d, \"filter\": \x7b\x7b \"filter\": ",
    "\x7b\x7b \"Version\": 2, \"From\": \x7bfrom_list\x7d, \"Where\": [ \x7b\x7b \"Condition\": ",
    "\x7b\x7b \"In\": \x7b\x7b \"Expressions\": [ \x7b\x7b \"Column\": \x7b\x7b \"Expression\": ",
    "\x7b\x7b \"SourceRef\": \x7b\x7b \"Source\": \"\x7bfilter_source\x7d\" \x7d\x7d \x7d\x7d, ",
    "\"Property\": \"\x7bfilter_property\x7d\" \x7d\x7d \x7d\x7d ], \x7d\x7d \x7d\x7d \x7d\x7d ] ",
    "\x7d\x7d \x7d\x7d \x7d\x7d \x7d\x7d ], \"selection\": \x7bselection_list\x7d \x7d\x7d, ",
    "\"vcObjects\": \x7b\x7b \"title\": [ \x7b\x7b \"properties\": \x7b\x7b \"show\": \x7b\x7b ",
    "\"expr\": \x7b\x7b \"Literal\": \x7b\x7b \"Value\": \"true\" \x7d\x7d \x7d\x7d \x7d\x7d, ",
    "\"text\": \x7b\x7b \"expr\": \x7b\x7b \"Literal\": \x7b\x7b \"Value\": \"'\x7btitle_text\x7d",
    "'\" \x7d\x7d \x7d\x7d \x7d\x7d \x7d\x7d \x7d\x7d ], \"background\": [ \x7b\x7b ",
    "\"properties\": \x7b\x7b \"show\": \x7b\x7b \"expr\": \x7b\x7b \"Literal\": \x7b\x7b ",
    "\"Value\": \"false\" \x7d\x7d \x7d\x7d \x7d\x7d, \"color\": \x7b\x7b \"solid\": \x7b\x7b ",
    "\"color\": \x7b\x7b \"expr\": \x7b\x7b \"ThemeDataColor\": \x7b\x7b \"ColorId\": 0, ",
    "\"Percent\": 0 \x7d\x7d \x7d\x7d \x7d\x7d \x7d\x7d \x7d\x7d \x7d\x7d \x7d\x7d ], ",
    "\"visualHeader\": [ \x7b\x7b \"properties\": \x7b\x7b \"border\": \x7b\x7b \"solid\": ",
    "\x7b\x7b \"color\": \x7b\x7b \"expr\": \x7b\x7b \"Literal\": \x7b\x7b \"Value\": ",
    "\"'#252423'\" \x7d\x7d \x7d\x7d \x7d\x7d \x7d\x7d \x7d\x7d, \"show\": \x7b\x7b \"expr\": ",
    "\x7b\x7b \"Literal\": \x7b\x7b \"Value\": \"false\" \x7d\x7d \x7d\x7d \x7d\x7d \x7d\x7d \x7d",
    "\x7d ], \"border\": [ \x7b\x7b \"properties\": \x7b\x7b \"show\": \x7b\x7b \"expr\": ",
    "\x7b\x7b \"Literal\": \x7b\x7b \"Value\": \"true\" \x7d\x7d \x7d\x7d \x7d\x7d, \"color\": ",
    "\x7b\x7b \"solid\": \x7b\x7b \"color\": \x7b\x7b \"expr\": \x7b\x7b \"Literal\": \x7b\x7b ",
    "\"Value\": \"'\x7bborder_color\x7d'\" \x7d\x7d \x7d\x7d \x7d\x7d \x7d\x7d \x7d\x7d \x7d\x7d ",
    "\x7d\x7d ] \x7d\x7d \x7d\x7d \x7d\x7d"]),
  ("text_box_json", .joined [
    "\x7b\x7b\"name\":\"\x7bvisual_config_name\x7d\",\"layouts\":[\x7b\x7b\"id\":0,\"position\":",
    "\x7b\x7b\"x\":\x7bx\x7d,\"y\":\x7by\x7d,\"z\":0,\"width\":\x7bwidth\x7d,\"height\":",
    "\x7bheight\x7d,\"tabOrder\":0\x7d\x7d\x7d\x7d],\"singleVisual\":\x7b\x7b\"visualType\":",
    "\"textbox\",\"drillFilterOtherVisuals\":true,\x7bobjects\x7d,\x7bvc_objects\x7d\x7d\x7d\x7d",
    "\x7d"]),
  ("title_textbox", .joined [
    "\x7b\x7b \"name\": \"\x7bvisual_config_name\x7d\", \"layouts\": [ \x7b\x7b \"id\": 0, ",
    "\"position\": \x7b\x7b \"x\": \x7bx\x7d, \"y\": \x7by\x7d, \"z\": \x7bz\x7d, \"width\": ",
    "\x7bwidth\x7d, \"height\": \x7bheight\x7d, \"tabOrder\": 1 \x7d\x7d \x7d\x7d ], ",
    "\"singleVisual\": \x7b\x7b \"visualType\": \"textbox\", \"drillFilterOtherVisuals\": true, ",
    "\"objects\": \x7b\x7b \"general\": [ \x7b\x7b \"properties\": \x7b\x7b \"paragraphs\": ",
    "\x7btext_paragraphs\x7d \x7d\x7d \x7d\x7d ] \x7d\x7d, \"vcObjects\": \x7b\x7b \"border\": ",
    "\x7bborder_list\x7d, \"background\": \x7bbackground_list\x7d \x7d\x7d \x7d\x7d \x7d\x7d"]),
  ("card_json", .joined [
    "\x7b\x7b \"name\": \"\x7bvisual_config_name\x7d\", \"layouts\": [ \x7b\x7b \"id\": 0, ",
    "\"position\": \x7b\x7b \"x\": \x7bx\x7d, \"y\": \x7by\x7d, \"z\": \x7bz\x7d, \"width\": ",
    "\x7bwidth\x7d, \"height\": \x7bheight\x7d, \"tabOrder\": 1 \x7d\x7d \x7d\x7d ], ",
    "\"singleVisual\": \x7b\x7b \"visualType\": \"card\", \"projections\": ",
    "\x7bprojection_data\x7d, \"prototypeQuery\": \x7b\x7b \"Version\": 2, \"From\": ",
    "\x7bfrom_list\x7d, \"Select\": \x7bselect_list\x7d \x7d\x7d, \"drillFilterOtherVisuals\": ",
    "true, \"objects\": \x7bobjects_data\x7d, \"vcObjects\": \x7b\x7b \"title\": ",
    "\x7btitle_list\x7d \x7d\x7d \x7d\x7d \x7d\x7d"]),
  ("button_json", .joined [
    "\x7b\x7b\"name\":\"\x7bvisual_config_name\x7d\",\"layouts\":[\x7b\x7b\"id\":0,\"position\":",
    "\x7b\x7b\"x\":\x7bx\x7d,\"y\":\x7by\x7d,\"z\":0,\"width\":\x7bwidth\x7d,\"height\":",
    "\x7bheight\x7d,\"tabOrder\":1000\x7d\x7d\x7d\x7d],\"singleVisual\":\x7b\x7b\"visualType\":",
    "\"actionButton\",\"drillFilterOtherVisuals\":true,\x7bobjects\x7d,\x7bvc_objects\x7d\x7d\x7d",
    ",\"howCreated\":\"InsertVisualButton\"\x7d\x7d"])]

end ReportMigration.Wording
