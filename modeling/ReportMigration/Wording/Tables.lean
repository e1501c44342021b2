import ReportMigration.Wording.Constant
/-!
Templates for tables, maps and tree maps.
-/
namespace ReportMigration.Wording

/-- Tables, maps and tree maps. -/
def tables : List (String × Constant) := [
  ("pivot_table_json", .joined [
    "\x7b\x7b \"name\": \"\x7bvisual_config_name\x7d\", \"layouts\": [ \x7b\x7b \"id\": 0, ",
    "\"position\": \x7b\x7b \"x\": \x7bx\x7d, \"y\": \x7by\x7d, \"z\": \x7bz\x7d, \"width\": ",
    "\x7bwidth\x7d, \"height\": \x7bheight\x7d, \"tabOrder\": 0 \x7d\x7d \x7d\x7d ], ",
    "\"singleVisual\": \x7b\x7b \"visualType\": \"pivotTable\", \"projections\": \x7b\x7b ",
    "\"Rows\": [ \x7b\x7b \"queryRef\": \"\x7brows_queryref\x7d\", \"active\": true \x7d\x7d ], ",
    "\"Columns\": [ \x7b\x7b \"queryRef\": \"\x7bcols_queryref\x7d\", \"active\": true \x7d\x7d ",
    "], \"Values\": [ \x7b\x7b \"queryRef\": \"\x7bvalue_queryref\x7d\" \x7d\x7d ] \x7d\x7d, ",
    "\"prototypeQuery\": \x7b\x7b \"Version\": 2, \"From\": \x7bfrom_list\x7d, \"Select\": ",
    "\x7bselect_list\x7d \x7d\x7d, \"drillFilterOtherVisuals\": true, \"objects\": \x7b\x7b ",
    "\"subTotals\": [ \x7b\x7b \"properties\": \x7b\x7b \"columnSubtotals\": \x7b\x7b \"expr\": ",
    "\x7b\x7b \"Literal\": \x7b\x7b \"Value\": \"false\" \x7d\x7d \x7d\x7d \x7d\x7d, ",
    "\"rowSubtotals\": \x7b\x7b \"expr\": \x7b\x7b \"Literal\": \x7b\x7b \"Value\": \"false\" ",
    "\x7d\x7d \x7d\x7d \x7d\x7d \x7d\x7d \x7d\x7d ], \"columnHeaders\": [ \x7b\x7b ",
    "\"properties\": \x7b\x7b \"fontSize\": \x7b\x7b \"expr\": \x7b\x7b \"Literal\": \x7b\x7b ",
    "\"Value\": \"13D\" \x7d\x7d \x7d\x7d \x7d\x7d \x7d\x7d \x7d\x7d ], \"rowHeaders\": [ ",
    "\x7b\x7b \"properties\": \x7b\x7b \"fontSize\": \x7b\x7b \"expr\": \x7b\x7b \"Literal\": ",
    "\x7b\x7b \"Value\": \"13D\" \x7d\x7d \x7d\x7d \x7d\x7d \x7d\x7d \x7d\x7d ], \"grid\": [ ",
    "\x7b\x7b \"properties\": \x7b\x7b\x7d\x7d \x7d\x7d ] \x7d\x7d, \"vcObjects\": \x7b\x7b ",
    "\"stylePreset\": [ \x7b\x7b \"properties\": \x7b\x7b \"name\": \x7b\x7b \"expr\": \x7b\x7b ",
    "\"Literal\": \x7b\x7b \"Value\": \"'Default'\" \x7d\x7d \x7d\x7d \x7d\x7d \x7d\x7d \x7d\x7d ",
    "], \"title\": \x7btitle_list\x7d, \"background\": \x7bbackground_list\x7d, \"border\": ",
    "\x7bborder_list\x7d \x7d\x7d \x7d\x7d \x7d\x7d"]),
  ("pivot_table_filters",
    .value (.obj [
      ("filters", .arr []),
      ("height", .real (.ofDecimal false 51848 2)),
      ("width", .real (.ofDecimal false 128031 2)),
      ("x", .int 0),
      ("y", .real (.ofDecimal false 20177 2)),
      ("z", .int 0)])),
  ("treemap_json", .joined [
    "\x7b\x7b \"name\": \"\x7bvisual_config_name\x7d\", \"layouts\": [ \x7b\x7b \"id\": 0, ",
    "\"position\": \x7b\x7b \"x\": \x7bx\x7d, \"y\": \x7by\x7d, \"z\": \x7bz\x7d, \"width\": ",
    "\x7bwidth\x7d, \"height\": \x7bheight\x7d, \"tabOrder\": 0 \x7d\x7d \x7d\x7d ], ",
    "\"singleVisual\": \x7b\x7b \"visualType\": \"treemap\", \"projections\": \x7b\x7b \"Group\":",
    " [ \x7b\x7b \"queryRef\": \"\x7bgroup_queryref\x7d\", \"active\": true \x7d\x7d ], ",
    "\"Values\": [ \x7b\x7b \"queryRef\": \"\x7bvalues_queryref\x7d\" \x7d\x7d ] \x7d\x7d, ",
    "\"prototypeQuery\": \x7b\x7b \"Version\": 2, \"From\": [ \x7b\x7b \"Name\": ",
    "\"\x7bfrom_name\x7d\", \"Entity\": \"\x7bfrom_entity\x7d\", \"Type\": 0 \x7d\x7d ], ",
    "\"Select\": [ \x7b\x7b \"Column\": \x7b\x7b \"Expression\": \x7b\x7b \"SourceRef\": ",
    "\x7b\x7b \"Source\": \"\x7bfrom_name\x7d\" \x7d\x7d \x7d\x7d, \"Property\": ",
    "\"\x7bselect_property\x7d\" \x7d\x7d, \"Name\": \"\x7bgroup_queryref\x7d\", ",
    "\"NativeReferenceName\": \"\x7bselect_nativeReferenceName\x7d\" \x7d\x7d, \x7b\x7b ",
    "\"Aggregation\": \x7b\x7b \"Expression\": \x7b\x7b \"Column\": \x7b\x7b \"Expression\": ",
    "\x7b\x7b \"SourceRef\": \x7b\x7b \"Source\": \"\x7bfrom_name\x7d\" \x7d\x7d \x7d\x7d, ",
    "\"Property\": \"\x7baggregation_property\x7d\" \x7d\x7d \x7d\x7d, \"Function\": 0 \x7d\x7d, ",
    "\"Name\": \"\x7bvalues_queryref\x7d\", \"NativeReferenceName\": ",
    "\"\x7baggregation_nativeReferenceName\x7d\" \x7d\x7d ] \x7d\x7d, ",
    "\"drillFilterOtherVisuals\": true, \"objects\": \x7b\x7b \"dataPoint\": [ \x7b\x7b ",
    "\"properties\": \x7b\x7b \"fill\": \x7b\x7b \"solid\": \x7b\x7b \"color\": \x7b\x7b ",
    "\"expr\": \x7b\x7b \"FillRule\": \x7b\x7b \"Input\": \x7b\x7b \"Aggregation\": \x7b\x7b ",
    "\"Expression\": \x7b\x7b \"Column\": \x7b\x7b \"Expression\": \x7b\x7b \"SourceRef\": ",
    "\x7b\x7b \"Entity\": \"\x7bfrom_entity\x7d\" \x7d\x7d \x7d\x7d, \"Property\": ",
    "\"\x7bselect_property\x7d\" \x7d\x7d \x7d\x7d, \"Function\": 5 \x7d\x7d \x7d\x7d, ",
    "\"FillRule\": \x7b\x7b \"linearGradient2\": \x7b\x7b \"min\": \x7b\x7b \"color\": \x7b\x7b ",
    "\"Literal\": \x7b\x7b \"Value\": \"'#BCE4D8'\" \x7d\x7d \x7d\x7d \x7d\x7d, \"max\": ",
    "\x7b\x7b \"color\": \x7b\x7b \"Literal\": \x7b\x7b \"Value\": \"'#2C5985'\" \x7d\x7d \x7d",
    "\x7d \x7d\x7d, \"nullColoringStrategy\": \x7b\x7b \"strategy\": \x7b\x7b \"Literal\": ",
    "\x7b\x7b \"Value\": \"'asZero'\" \x7d\x7d \x7d\x7d \x7d\x7d \x7d\x7d \x7d\x7d \x7d\x7d \x7d",
    "\x7d \x7d\x7d \x7d\x7d \x7d\x7d \x7d\x7d, \"selector\": \x7b\x7b \"data\": [ \x7b\x7b ",
    "\"dataViewWildcard\": \x7b\x7b \"matchingOption\": 1 \x7d\x7d \x7d\x7d ] \x7d\x7d \x7d\x7d ",
    "] \x7d\x7d, \"vcObjects\": \x7b\x7b \"title\": \x7btitle_list\x7d, \"background\": ",
    "\x7bbackground_list\x7d, \"border\": \x7bborder_list\x7d \x7d\x7d \x7d\x7d \x7d\x7d"]),
  ("treemap_filter_json",
    .value (.obj [("filters", .str "[]"), ("height", .real (.ofDecimal false 30204 2)), ("width",
      .real (.ofDecimal false 128031 2)), ("x", .real (.ofDecimal false 0 1)), ("y",
      .real (.ofDecimal false 41821 2)), ("z", .real (.ofDecimal false 0 1))])),
  ("filledmap_template", .joined [
    "\x7b\x7b \"name\": \"\x7bvisual_config_name\x7d\", \"layouts\": [ \x7b\x7b \"id\": 0, ",
    "\"position\": \x7b\x7b \"x\": \x7bx\x7d, \"y\": \x7by\x7d, \"z\": \x7bz\x7d, \"width\": ",
    "\x7bwidth\x7d, \"height\": \x7bheight\x7d, \"tabOrder\": 1 \x7d\x7d \x7d\x7d ], ",
    "\"singleVisual\": \x7b\x7b \"visualType\": \"filledMap\", \"projections\": ",
    "\x7bprojection_data\x7d, \"prototypeQuery\": \x7b\x7b \"Version\": 2, \"From\": ",
    "\x7bfrom_list\x7d, \"Select\": \x7bselect_list\x7d \x7d\x7d, \"drillFilterOtherVisuals\": ",
    "true, \"objects\": \x7bobjects_data\x7d, \"vcObjects\": \x7b\x7b \"title\": ",
    "\x7btitle_list\x7d, \"background\": \x7bbackground_list\x7d, \"border\": \x7bborder_list\x7d",
    " \x7d\x7d \x7d\x7d \x7d\x7d"]),
  ("table_json", .joined [
    "\x7b\x7b \"name\": \"2bb9ed4ae660e7a710b4\", \"layouts\": [ \x7b\x7b \"id\": 0, ",
    "\"position\": \x7b\x7b \"x\": \x7bx\x7d, \"y\": \x7by\x7d, \"z\": \x7bz\x7d, \"width\": ",
    "\x7bwidth\x7d, \"height\": \x7bheight\x7d, \"tabOrder\": 6000 \x7d\x7d \x7d\x7d ], ",
    "\"singleVisual\": \x7b\x7b \"visualType\": \"tableEx\", \"projections\": ",
    "\x7bprojections_data\x7d, \"prototypeQuery\": \x7b\x7b \"Version\": 2, \"From\": ",
    "\x7bfrom_list\x7d, \"Select\": \x7bselect_list\x7d \x7d\x7d, \"drillFilterOtherVisuals\": ",
    "true, \"vcObjects\": \x7b\x7b\"title\": \x7btitle_list\x7d, \"background\": ",
    "\x7bbackground_list\x7d, \"border\": \x7bborder_list\x7d\x7d\x7d \x7d\x7d \x7d\x7d"]),
  ("map_json_template", .joined [
    "\x7b\x7b \"name\": \"\x7bvisual_config_name\x7d\", \"layouts\": [ \x7b\x7b \"id\": 0, ",
    "\"position\": \x7b\x7b \"x\": \x7bx\x7d, \"y\": \x7by\x7d, \"z\": \x7bz\x7d, \"width\": ",
    "\x7bwidth\x7d, \"height\": \x7bheight\x7d, \"tabOrder\": 18000 \x7d\x7d \x7d\x7d ], ",
    "\"singleVisual\": \x7b\x7b \"visualType\": \"map\", \"projections\": \x7b\x7b \"Category\": ",
    "[ \x7b\x7b \"queryRef\": \"\x7bcategory_queryref\x7d\", \"active\": true \x7d\x7d ], ",
    "\"Size\": [ \x7b\x7b \"queryRef\": \"\x7bsize_queryref\x7d\" \x7d\x7d ] \x7d\x7d, ",
    "\"prototypeQuery\": \x7b\x7b \"Version\": 2, \"From\": \x7bfrom_list\x7d, \"Select\": ",
    "\x7bselect_list\x7d,\"OrderBy\": [ \x7b\x7b \"Direction\": 2, \"Expression\": \x7b\x7b ",
    "\"Aggregation\": \x7b\x7b \"Expression\": \x7b\x7b \"Column\": \x7b\x7b \"Expression\": ",
    "\x7b\x7b \"SourceRef\": \x7b\x7b \"Source\": \"\x7borderby_source\x7d\" \x7d\x7d \x7d\x7d, ",
    "\"Property\": \"\x7borderby_property\x7d\" \x7d\x7d \x7d\x7d, \"Function\": 0 \x7d\x7d \x7d",
    "\x7d \x7d\x7d ] \x7d\x7d, \"drillFilterOtherVisuals\": true, \"hasDefaultSort\": true, ",
    "\"objects\": \x7b\x7b \"bubbles\": [ \x7b\x7b \"properties\": \x7b\x7b \"bubbleSize\": ",
    "\x7b\x7b \"expr\": \x7b\x7b \"Literal\": \x7b\x7b \"Value\": \"26L\" \x7d\x7d \x7d\x7d \x7d",
    "\x7d \x7d\x7d \x7d\x7d ], \"mapStyles\": [ \x7b\x7b \"properties\": \x7b\x7b \"showLabels\":",
    " \x7b\x7b \"expr\": \x7b\x7b \"Literal\": \x7b\x7b \"Value\": \"false\" \x7d\x7d \x7d\x7d ",
    "\x7d\x7d, \"mapTheme\": \x7b\x7b \"expr\": \x7b\x7b \"Literal\": \x7b\x7b \"Value\": ",
    "\"'canvasLight'\" \x7d\x7d \x7d\x7d \x7d\x7d \x7d\x7d \x7d\x7d ], \"categoryLabels\": [ ",
    "\x7b\x7b \"properties\": \x7b\x7b \"show\": \x7b\x7b \"expr\": \x7b\x7b \"Literal\": ",
    "\x7b\x7b \"Value\": \"true\" \x7d\x7d \x7d\x7d \x7d\x7d, \"enableBackground\": \x7b\x7b ",
    "\"expr\": \x7b\x7b \"Literal\": \x7b\x7b \"Value\": \"true\" \x7d\x7d \x7d\x7d \x7d\x7d, ",
    "\"backgroundTransparency\": \x7b\x7b \"expr\": \x7b\x7b \"Literal\": \x7b\x7b \"Value\": ",
    "\"100L\" \x7d\x7d \x7d\x7d \x7d\x7d, \"color\": \x7b\x7b \"solid\": \x7b\x7b \"color\": ",
    "\x7b\x7b \"expr\": \x7b\x7b \"Literal\": \x7b\x7b \"Value\": \"'#252423'\" \x7d\x7d \x7d\x7d",
    " \x7d\x7d \x7d\x7d \x7d\x7d \x7d\x7d \x7d\x7d ], \"mapControls\": [ \x7b\x7b \"properties\":",
    " \x7b\x7b \"autoZoom\": \x7b\x7b \"expr\": \x7b\x7b \"Literal\": \x7b\x7b \"Value\": ",
    "\"true\" \x7d\x7d \x7d\x7d \x7d\x7d, \"showZoomButtons\": \x7b\x7b \"expr\": \x7b\x7b ",
    "\"Literal\": \x7b\x7b \"Value\": \"false\" \x7d\x7d \x7d\x7d \x7d\x7d, \"showLassoButton\": ",
    "\x7b\x7b \"expr\": \x7b\x7b \"Literal\": \x7b\x7b \"Value\": \"false\" \x7d\x7d \x7d\x7d ",
    "\x7d\x7d, \"geocodingCulture\": \x7b\x7b \"expr\": \x7b\x7b \"Literal\": \x7b\x7b \"Value\":",
    " \"'en-US'\" \x7d\x7d \x7d\x7d \x7d\x7d \x7d\x7d \x7d\x7d ], \"dataPoint\": [ \x7b\x7b ",
    "\"properties\": \x7b\x7b \"fill\": \x7b\x7b \"solid\": \x7b\x7b \"color\": \x7b\x7b ",
    "\"expr\": \x7b\x7b \"Literal\": \x7b\x7b \"Value\": \"'#4E79A7'\" \x7d\x7d \x7d\x7d \x7d\x7d",
    " \x7d\x7d \x7d\x7d \x7d\x7d \x7d\x7d ] \x7d\x7d, \"vcObjects\": \x7b\x7b \"title\": ",
    "\x7btitle_list\x7d, \"background\": \x7bbackground_list\x7d, \"border\": \x7bborder_list\x7d",
    ", \"visualHeader\": [ \x7b\x7b \"properties\": \x7b\x7b \"show\": \x7b\x7b \"expr\": ",
    "\x7b\x7b \"Literal\": \x7b\x7b \"Value\": \"false\" \x7d\x7d \x7d\x7d \x7d\x7d \x7d\x7d \x7d",
    "\x7d ] \x7d\x7d \x7d\x7d \x7d\x7d"]),
  ("pivot_table_template", .joined [
    "\x7b\x7b\"name\":\"\x7bvisual_config_name\x7d\",\"layouts\":[\x7b\x7b\"id\":0,\"position\":",
    "\x7b\x7b\"x\":\x7bx\x7d,\"y\":\x7by\x7d,\"z\":\x7bz\x7d,\"width\":\x7bwidth\x7d,\"height\":",
    "\x7bheight\x7d,\"tabOrder\":0\x7d\x7d\x7d\x7d],\"singleVisual\":\x7b\x7b\"visualType\":",
    "\"pivotTable\",\"projections\":\x7bprojections_dict\x7d,\"prototypeQuery\":",
    "\x7b\x7b\"Version\":2,\"From\":\x7bfrom_list\x7d,\"Select\":\x7bselect_list\x7d\x7d\x7d,",
    "\"drillFilterOtherVisuals\":true,\"objects\":\x7b\x7b\"values\":\x7bobjects_values\x7d,",
    "\"columnHeaders\":[\x7b\x7b\"properties\":\x7b\x7b\"wordWrap\":\x7b\x7b\"expr\":",
    "\x7b\x7b\"Literal\":\x7b\x7b\"Value\":\"true\"\x7d\x7d\x7d\x7d\x7d\x7d,\"fontSize\":",
    "\x7b\x7b\"expr\":\x7b\x7b\"Literal\":\x7b\x7b\"Value\":\"10D\"\x7d\x7d\x7d\x7d\x7d\x7d,",
    "\"fontFamily\":\x7b\x7b\"expr\":\x7b\x7b\"Literal\":\x7b\x7b\"Value\":\"'Calibri'\"\x7d\x7d",
    "\x7d\x7d\x7d\x7d\x7d\x7d\x7d\x7d],\"subTotals\":[\x7b\x7b\"properties\":",
    "\x7b\x7b\"columnSubtotals\":\x7b\x7b\"expr\":\x7b\x7b\"Literal\":\x7b\x7b\"Value\":",
    "\"true\"\x7d\x7d\x7d\x7d\x7d\x7d,\"rowSubtotals\":\x7b\x7b\"expr\":\x7b\x7b\"Literal\":",
    "\x7b\x7b\"Value\":\"false\"\x7d\x7d\x7d\x7d\x7d\x7d\x7d\x7d\x7d\x7d],\"rowHeaders\":",
    "[\x7b\x7b\"properties\":\x7b\x7b\"fontSize\":\x7b\x7b\"expr\":\x7b\x7b\"Literal\":",
    "\x7b\x7b\"Value\":\"13D\"\x7d\x7d\x7d\x7d\x7d\x7d,\"fontFamily\":\x7b\x7b\"expr\":",
    "\x7b\x7b\"Literal\":\x7b\x7b\"Value\":\"'Calibri'\"\x7d\x7d\x7d\x7d\x7d\x7d\x7d\x7d\x7d\x7d",
    "],\"grid\":[\x7b\x7b\"properties\":\x7b\x7b\"outlineColor\":\x7b\x7b\"solid\":",
    "\x7b\x7b\"color\":\x7b\x7b\"expr\":\x7b\x7b\"Literal\":\x7b\x7b\"Value\":\"'#CCCCCC'\"\x7d",
    "\x7d\x7d\x7d\x7d\x7d\x7d\x7d\x7d\x7d\x7d\x7d\x7d\x7d],\"columnTotal\":",
    "[\x7b\x7b\"properties\":\x7b\x7b\"fontFamily\":\x7b\x7b\"expr\":\x7b\x7b\"Literal\":",
    "\x7b\x7b\"Value\":\"'Calibri'\"\x7d\x7d\x7d\x7d\x7d\x7d\x7d\x7d\x7d\x7d],\"rowTotal\":",
    "[\x7b\x7b\"properties\":\x7b\x7b\"fontFamily\":\x7b\x7b\"expr\":\x7b\x7b\"Literal\":",
    "\x7b\x7b\"Value\":\"'Calibri'\"\x7d\x7d\x7d\x7d\x7d\x7d\x7d\x7d\x7d\x7d]\x7d\x7d, ",
    "\"vcObjects\": \x7b\x7b \"title\": \x7btitle_list\x7d, \"background\": ",
    "\x7bbackground_list\x7d, \"border\": \x7bborder_list\x7d \x7d\x7d\x7d\x7d\x7d\x7d"]),
  ("pivot_table_colors", .joined [
    "[ \x7b\x7b \"properties\": \x7b\x7b \"backColor\": \x7b\x7b \"solid\": \x7b\x7b \"color\": ",
    "\x7b\x7b \"expr\": \x7b\x7b \"FillRule\": \x7b\x7b \"Input\": \x7bvalues_input\x7d, ",
    "\"FillRule\": \x7b\x7b \"linearGradient3\": \x7b\x7b \"min\": \x7b\x7b \"color\": \x7b\x7b ",
    "\"Literal\": \x7b\x7b \"Value\": \"'\x7bmin_color\x7d'\" \x7d\x7d \x7d\x7d \x7d\x7d, ",
    "\"mid\": \x7b\x7b \"color\": \x7b\x7b \"Literal\": \x7b\x7b \"Value\": \"'\x7bmid_color\x7d",
    "'\" \x7d\x7d \x7d\x7d \x7d\x7d, \"max\": \x7b\x7b \"color\": \x7b\x7b \"Literal\": \x7b\x7b ",
    "\"Value\": \"'\x7bmax_color\x7d'\" \x7d\x7d \x7d\x7d \x7d\x7d, \"nullColoringStrategy\": ",
    "\x7b\x7b \"strategy\": \x7b\x7b \"Literal\": \x7b\x7b \"Value\": \"'asZero'\" \x7d\x7d \x7d",
    "\x7d \x7d\x7d \x7d\x7d \x7d\x7d \x7d\x7d \x7d\x7d \x7d\x7d \x7d\x7d \x7d\x7d \x7d\x7d, ",
    "\"selector\": \x7b\x7b \"data\": [ \x7b\x7b \"dataViewWildcard\": \x7b\x7b ",
    "\"matchingOption\": 1 \x7d\x7d \x7d\x7d ], \"metadata\": \"\x7bselector_metadata\x7d\" \x7d",
    "\x7d \x7d\x7d, \x7b\x7b \"properties\": \x7b\x7b \"bandedRowHeaders\": \x7b\x7b \"expr\": ",
    "\x7b\x7b \"Literal\": \x7b\x7b \"Value\": \"false\" \x7d\x7d \x7d\x7d \x7d\x7d, ",
    "\"fontSize\": \x7b\x7b \"expr\": \x7b\x7b \"Literal\": \x7b\x7b \"Value\": \"13D\" \x7d\x7d ",
    "\x7d\x7d \x7d\x7d \x7d\x7d \x7d\x7d ]"])]

end ReportMigration.Wording
