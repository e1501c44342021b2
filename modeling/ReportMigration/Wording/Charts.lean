import ReportMigration.Wording.Constant
/-!
Templates for charts, and for an empty report.
-/
namespace ReportMigration.Wording

/-- Charts. -/
def charts : List (String × Constant) := [
  ("piechart_json", .joined [
    "\x7b\x7b \"name\": \"\x7bvisual_config_name\x7d\", \"layouts\": [ \x7b\x7b \"id\": 0, ",
    "\"position\": \x7b\x7b \"x\": \x7bx\x7d, \"y\": \x7by\x7d, \"z\": \x7bz\x7d, \"width\": ",
    "\x7bwidth\x7d, \"height\": \x7bheight\x7d, \"tabOrder\": 0 \x7d\x7d \x7d\x7d ], ",
    "\"singleVisual\": \x7b\x7b \"visualType\": \"pieChart\", \"projections\": \x7b\x7b ",
    "\"Category\": [ \x7b\x7b \"queryRef\": \"\x7bcategory_queryref\x7d\", \"active\": true \x7d",
    "\x7d ], \"Y\": [ \x7b\x7b \"queryRef\": \"\x7by_queryref\x7d\" \x7d\x7d ] \x7d\x7d, ",
    "\"prototypeQuery\": \x7b\x7b \"Version\": 2, \"From\": \x7bfrom_list\x7d, \"Select\": ",
    "\x7bselect_list\x7d \x7d\x7d, \"drillFilterOtherVisuals\": true, \"hasDefaultSort\": true, ",
    "\"objects\": \x7b\x7b \"labels\": [ \x7b\x7b \"properties\": \x7b\x7b \"labelDisplayUnits\":",
    " \x7b\x7b \"expr\": \x7b\x7b \"Literal\": \x7b\x7b \"Value\": \"1D\" \x7d\x7d \x7d\x7d \x7d",
    "\x7d \x7d\x7d \x7d\x7d ] \x7d\x7d,\"vcObjects\": \x7b\x7b\"title\": \x7btitle_list\x7d, ",
    "\"background\": \x7bbackground_list\x7d, \"border\": \x7bborder_list\x7d \x7d\x7d \x7d\x7d ",
    "\x7d\x7d"]),
  ("line_chart_json", .joined [
    "\x7b\x7b \"name\": \"\x7bvisual_config_name\x7d\", \"layouts\": [ \x7b\x7b \"id\": 0, ",
    "\"position\": \x7b\x7b \"x\": \x7bx\x7d, \"y\": \x7by\x7d, \"z\": \x7bz\x7d, \"width\":",
    "\x7bwidth\x7d, \"height\": \x7bheight\x7d, \"tabOrder\": 0 \x7d\x7d \x7d\x7d ], ",
    "\"singleVisual\": \x7b\x7b \"visualType\": \"lineChart\", \"projections\": ",
    "\x7bprojection_data\x7d, \"prototypeQuery\": \x7b\x7b \"Version\": 2, \"From\": ",
    "\x7bfrom_list\x7d, \"Select\": \x7bselect_list\x7d \x7d\x7d, \"drillFilterOtherVisuals\": ",
    "true, \"objects\": \x7bobjects_data\x7d, \"vcObjects\": \x7b\x7b \"background\": ",
    "\x7bbackground_list\x7d, \"title\": \x7btitle_list\x7d, \"border\": \x7bborder_list\x7d \x7d",
    "\x7d \x7d\x7d \x7d\x7d"]),
  ("line_stacked_column_json", .joined [
    "\x7b\x7b \"name\": \"\x7bvisual_config_name\x7d\", \"layouts\": [ \x7b\x7b \"id\": 0, ",
    "\"position\": \x7b\x7b \"x\": \x7bx\x7d, \"y\": \x7by\x7d, \"z\": \x7bz\x7d, \"width\": ",
    "\x7bwidth\x7d, \"height\": \x7bheight\x7d, \"tabOrder\": 9000 \x7d\x7d \x7d\x7d ], ",
    "\"singleVisual\": \x7b\x7b \"visualType\": \"lineStackedColumnComboChart\", \"projections\":",
    " \x7b\x7b \"Y\": [ \x7b\x7b \"queryRef\": \"\x7by_queryref\x7d\" \x7d\x7d ], \"Y2\": [ ",
    "\x7b\x7b \"queryRef\": \"\x7by2_queryref\x7d\" \x7d\x7d ], \"Category\": [ \x7b\x7b ",
    "\"queryRef\": \"\x7bcategory_queryref\x7d\", \"active\": true \x7d\x7d ] \x7d\x7d, ",
    "\"prototypeQuery\": \x7b\x7b \"Version\": 2, \"From\": \x7bfrom_list\x7d, \"Select\": ",
    "\x7bselect_list\x7d \x7d\x7d, \"columnProperties\": \x7b\x7b \"\x7by_queryref\x7d\": ",
    "\x7b\x7b \"displayName\": \"\x7bcol_prop_displayname\x7d\" \x7d\x7d \x7d\x7d, ",
    "\"drillFilterOtherVisuals\": true, \"hasDefaultSort\": true, \"objects\": \x7b\x7b ",
    "\"dataPoint\": [ \x7b\x7b \"properties\": \x7b\x7b \"fill\": \x7b\x7b \"solid\": \x7b\x7b ",
    "\"color\": \x7b\x7b \"expr\": \x7b\x7b \"Literal\": \x7b\x7b \"Value\": \"'#E15759'\" \x7d",
    "\x7d \x7d\x7d \x7d\x7d \x7d\x7d \x7d\x7d \x7d\x7d \x7d\x7d, \x7b\x7b \"properties\": ",
    "\x7b\x7b \"fill\": \x7b\x7b \"solid\": \x7b\x7b \"color\": \x7b\x7b \"expr\": \x7b\x7b ",
    "\"Literal\": \x7b\x7b \"Value\": \"'#252423'\" \x7d\x7d \x7d\x7d \x7d\x7d \x7d\x7d \x7d\x7d ",
    "\x7d\x7d, \"selector\": \x7b\x7b \"metadata\": \"\x7by2_queryref\x7d\" \x7d\x7d \x7d\x7d ], ",
    "\"lineStyles\": [ \x7b\x7b \"properties\": \x7b\x7b \"areaShow\": \x7b\x7b \"expr\": ",
    "\x7b\x7b \"Literal\": \x7b\x7b \"Value\": \"true\" \x7d\x7d \x7d\x7d \x7d\x7d \x7d\x7d \x7d",
    "\x7d ], \"legend\": [ \x7b\x7b \"properties\": \x7b\x7b \"show\": \x7b\x7b \"expr\": ",
    "\x7b\x7b \"Literal\": \x7b\x7b \"Value\": \"false\" \x7d\x7d \x7d\x7d \x7d\x7d \x7d\x7d \x7d",
    "\x7d ], \"valueAxis\": [ \x7b\x7b \"properties\": \x7b\x7b \"axisStyle\": \x7b\x7b \"expr\":",
    " \x7b\x7b \"Literal\": \x7b\x7b \"Value\": \"'showTitleOnly'\" \x7d\x7d \x7d\x7d \x7d\x7d, ",
    "\"showAxisTitle\": \x7b\x7b \"expr\": \x7b\x7b \"Literal\": \x7b\x7b \"Value\": \"true\" ",
    "\x7d\x7d \x7d\x7d \x7d\x7d, \"labelColor\": \x7b\x7b \"solid\": \x7b\x7b \"color\": ",
    "\x7b\x7b \"expr\": \x7b\x7b \"ThemeDataColor\": \x7b\x7b \"ColorId\": 0, \"Percent\": -0.6 ",
    "\x7d\x7d \x7d\x7d \x7d\x7d \x7d\x7d \x7d\x7d, \"secShow\": \x7b\x7b \"expr\": \x7b\x7b ",
    "\"Literal\": \x7b\x7b \"Value\": \"false\" \x7d\x7d \x7d\x7d \x7d\x7d, \"titleItalic\": ",
    "\x7b\x7b \"expr\": \x7b\x7b \"Literal\": \x7b\x7b \"Value\": \"true\" \x7d\x7d \x7d\x7d \x7d",
    "\x7d, \"italic\": \x7b\x7b \"expr\": \x7b\x7b \"Literal\": \x7b\x7b \"Value\": \"true\" \x7d",
    "\x7d \x7d\x7d \x7d\x7d, \"titleColor\": \x7b\x7b \"solid\": \x7b\x7b \"color\": \x7b\x7b ",
    "\"expr\": \x7b\x7b \"Literal\": \x7b\x7b \"Value\": \"'#E15777'\" \x7d\x7d \x7d\x7d \x7d\x7d",
    " \x7d\x7d \x7d\x7d, \"labelPrecision\": \x7b\x7b \"expr\": \x7b\x7b \"Literal\": \x7b\x7b ",
    "\"Value\": \"0L\" \x7d\x7d \x7d\x7d \x7d\x7d, \"gridlineShow\": \x7b\x7b \"expr\": \x7b\x7b ",
    "\"Literal\": \x7b\x7b \"Value\": \"false\" \x7d\x7d \x7d\x7d \x7d\x7d \x7d\x7d \x7d\x7d ], ",
    "\"categoryAxis\": [ \x7b\x7b \"properties\": \x7b\x7b \"showAxisTitle\": \x7b\x7b \"expr\": ",
    "\x7b\x7b \"Literal\": \x7b\x7b \"Value\": \"false\" \x7d\x7d \x7d\x7d \x7d\x7d, ",
    "\"labelColor\": \x7b\x7b \"solid\": \x7b\x7b \"color\": \x7b\x7b \"expr\": \x7b\x7b ",
    "\"Literal\": \x7b\x7b \"Value\": \"'#252423'\" \x7d\x7d \x7d\x7d \x7d\x7d \x7d\x7d \x7d\x7d,",
    " \"gridlineShow\": \x7b\x7b \"expr\": \x7b\x7b \"Literal\": \x7b\x7b \"Value\": \"false\" ",
    "\x7d\x7d \x7d\x7d \x7d\x7d \x7d\x7d \x7d\x7d ], \"labels\": [ \x7b\x7b \"properties\": ",
    "\x7b\x7b \"show\": \x7b\x7b \"expr\": \x7b\x7b \"Literal\": \x7b\x7b \"Value\": \"true\" ",
    "\x7d\x7d \x7d\x7d \x7d\x7d, \"labelDensity\": \x7b\x7b \"expr\": \x7b\x7b \"Literal\": ",
    "\x7b\x7b \"Value\": \"100L\" \x7d\x7d \x7d\x7d \x7d\x7d, \"color\": \x7b\x7b \"solid\": ",
    "\x7b\x7b \"color\": \x7b\x7b \"expr\": \x7b\x7b \"Literal\": \x7b\x7b \"Value\": ",
    "\"'#252423'\" \x7d\x7d \x7d\x7d \x7d\x7d \x7d\x7d \x7d\x7d, \"enableBackground\": \x7b\x7b ",
    "\"expr\": \x7b\x7b \"Literal\": \x7b\x7b \"Value\": \"false\" \x7d\x7d \x7d\x7d \x7d\x7d, ",
    "\"labelDisplayUnits\": \x7b\x7b \"expr\": \x7b\x7b \"Literal\": \x7b\x7b \"Value\": ",
    "\"1000000D\" \x7d\x7d \x7d\x7d \x7d\x7d, \"bold\": \x7b\x7b \"expr\": \x7b\x7b \"Literal\": ",
    "\x7b\x7b \"Value\": \"true\" \x7d\x7d \x7d\x7d \x7d\x7d, \"labelPrecision\": \x7b\x7b ",
    "\"expr\": \x7b\x7b \"Literal\": \x7b\x7b \"Value\": \"2L\" \x7d\x7d \x7d\x7d \x7d\x7d \x7d",
    "\x7d \x7d\x7d ] \x7d\x7d, \"vcObjects\": \x7b\x7b \"title\": \x7btitle_list\x7d, ",
    "\"visualTooltip\": [ \x7b\x7b \"properties\": \x7b\x7b \"show\": \x7b\x7b \"expr\": ",
    "\x7b\x7b \"Literal\": \x7b\x7b \"Value\": \"true\" \x7d\x7d \x7d\x7d \x7d\x7d \x7d\x7d \x7d",
    "\x7d ], \"background\": \x7bbackground_list\x7d, \"border\": \x7bborder_list\x7d \x7d\x7d ",
    "\x7d\x7d \x7d\x7d"]),
  ("bar_chart_template", .joined [
    "\x7b\x7b \"name\": \"\x7bvisual_config_name\x7d\", \"layouts\": [ \x7b\x7b \"id\": 0, ",
    "\"position\": \x7b\x7b \"x\": \x7bx\x7d, \"y\": \x7by\x7d, \"z\": \x7bz\x7d, \"width\": ",
    "\x7bwidth\x7d, \"height\": \x7bheight\x7d, \"tabOrder\": 1001 \x7d\x7d \x7d\x7d ], ",
    "\"singleVisual\": \x7b\x7b \"visualType\": \"\x7bvisual_type\x7d\", \"projections\": ",
    "\x7bprojections_data\x7d, \"prototypeQuery\": \x7b\x7b \"Version\": 2, \"From\": ",
    "\x7bfrom_list\x7d, \"Select\": \x7bselect_list\x7d\x7d\x7d, \"drillFilterOtherVisuals\": ",
    "true, \"hasDefaultSort\": true, \"objects\": \x7bobjects_data\x7d, \"vcObjects\": \x7b\x7b ",
    "\"title\": \x7btitle_list\x7d, \"background\": \x7bbackground_list\x7d, \"border\": ",
    "\x7bborder_list\x7d \x7d\x7d \x7d\x7d \x7d\x7d"]),
  ("scatter_json", .joined [
    "\x7b\x7b\"name\":\"\x7bvisual_config_name\x7d\",\"layouts\":[\x7b\x7b\"id\":0,\"position\":",
    "\x7b\x7b\"x\":\x7bx\x7d,\"y\":\x7by\x7d,\"z\":\x7bz\x7d,\"width\":\x7bwidth\x7d,\"height\":",
    "\x7bheight\x7d,\"tabOrder\":0\x7d\x7d\x7d\x7d],\"singleVisual\":\x7b\x7b\"visualType\":",
    "\"scatterChart\",\"projections\":\x7bprojection_data\x7d,\"prototypeQuery\":",
    "\x7b\x7b\"Version\":2,\"From\":\x7bfrom_list\x7d,\"Select\":\x7bselect_list\x7d\x7d\x7d,",
    "\"drillFilterOtherVisuals\":true,\"objects\":\x7bobjects_data\x7d, \"vcObjects\": \x7b\x7b ",
    "\"title\": \x7btitle_list\x7d, \"background\": \x7bbackground_list\x7d, \"border\": ",
    "\x7bborder_list\x7d \x7d\x7d \x7d\x7d \x7d\x7d"]),
  ("area_chart_json", .joined [
    "\x7b\x7b\"name\":\"\x7bvisual_config_name\x7d\",\"layouts\":[\x7b\x7b\"id\":0,\"position\":",
    "\x7b\x7b\"x\":\x7bx\x7d,\"y\":\x7by\x7d,\"z\":\x7bz\x7d,\"width\":\x7bwidth\x7d,\"height\":",
    "\x7bheight\x7d,\"tabOrder\":0\x7d\x7d\x7d\x7d],\"singleVisual\":\x7b\x7b\"visualType\":",
    "\"areaChart\",\"projections\":\x7b\x7b\"Category\":\x7bcategory_list\x7d,\"Y\":",
    "\x7by_ref_list\x7d,\"Series\":\x7bseries_ref_list\x7d\x7d\x7d,\"prototypeQuery\":",
    "\x7b\x7b\"Version\":2,\"From\":\x7bfrom_list\x7d,\"Select\":\x7bselect_list\x7d,\"OrderBy\":",
    "\x7borderby_list\x7d\x7d\x7d,\"drillFilterOtherVisuals\":true,\"objects\":",
    "\x7b\x7b\"labels\":[\x7b\x7b\"properties\":\x7b\x7b\"show\":\x7b\x7b\"expr\":",
    "\x7b\x7b\"Literal\":\x7b\x7b\"Value\":\"true\"\x7d\x7d\x7d\x7d\x7d\x7d\x7d\x7d\x7d\x7d],",
    "\"seriesLabels\":[\x7b\x7b\"properties\":\x7b\x7b\"show\":\x7b\x7b\"expr\":",
    "\x7b\x7b\"Literal\":\x7b\x7b\"Value\":\"true\"\x7d\x7d\x7d\x7d\x7d\x7d\x7d\x7d\x7d\x7d]\x7d",
    "\x7d, \"vcObjects\": \x7b\x7b \"title\": \x7btitle_list\x7d, \"background\": ",
    "\x7bbackground_list\x7d, \"border\": \x7bborder_list\x7d \x7d\x7d\x7d\x7d\x7d\x7d"]),
  ("stacked_bar_chart_json", .joined [
    "\x7b\x7b\"name\":\"\x7bvisual_config_name\x7d\",\"layouts\":[\x7b\x7b\"id\":0,\"position\":",
    "\x7b\x7b\"x\":\x7bx\x7d,\"y\":\x7by\x7d,\"z\":\x7bz\x7d,\"width\":\x7bwidth\x7d,\"height\":",
    "\x7bheight\x7d,\"tabOrder\":0\x7d\x7d\x7d\x7d],\"singleVisual\":\x7b\x7b\"visualType\":",
    "\"columnChart\",\"projections\":\x7b\x7b\"Category\":\x7bcategory_list\x7d,\"Y\":",
    "\x7by_ref_list\x7d,\"Series\":\x7bseries_ref_list\x7d\x7d\x7d,\"prototypeQuery\":",
    "\x7b\x7b\"Version\":2,\"From\":\x7bfrom_list\x7d,\"Select\":\x7bselect_list\x7d,\"OrderBy\":",
    "\x7borderby_list\x7d\x7d\x7d,\"columnProperties\":\x7bcolumn_properties_json\x7d,",
    "\"drillFilterOtherVisuals\":true,\"hasDefaultSort\":true,\"objects\":\x7b\x7b\"labels\":",
    "[\x7b\x7b\"properties\":\x7b\x7b\"show\":\x7b\x7b\"expr\":\x7b\x7b\"Literal\":",
    "\x7b\x7b\"Value\":\"true\"\x7d\x7d\x7d\x7d\x7d\x7d\x7d\x7d\x7d\x7d]\x7d\x7d\x7d\x7d\x7d\x7d"]),
  ("dual_line_chart_json", .joined [
    "\x7b\x7b\"name\":\"\x7bvisual_config_name\x7d\",\"layouts\":[\x7b\x7b\"id\":0,\"position\":",
    "\x7b\x7b\"x\":\x7bx\x7d,\"y\":\x7by\x7d,\"z\":\x7bz\x7d,\"height\":\x7bheight\x7d,\"width\":",
    "\x7bwidth\x7d,\"tabOrder\":0\x7d\x7d\x7d\x7d],\"singleVisual\":\x7b\x7b\"visualType\":",
    "\"lineChart\",\"projections\":\x7b\x7b\"Category\":\x7bcat_ref_list\x7d,\"Y\":",
    "\x7by_ref_list\x7d,\"Y2\":\x7by2_ref_list\x7d\x7d\x7d,\"prototypeQuery\":",
    "\x7b\x7b\"Version\":2,\"From\":\x7bfrom_list\x7d,\"Select\":\x7bselect_list\x7d,\"OrderBy\":",
    "\x7border_list\x7d\x7d\x7d,\"columnProperties\":\x7bcolumnproperties_json\x7d,",
    "\"drillFilterOtherVisuals\":\"true\",\"hasDefaultSort\":\"true\",\"objects\":",
    "\x7b\x7b\"labels\":[\x7b\x7b\"properties\":\x7b\x7b\"show\":\x7b\x7b\"expr\":",
    "\x7b\x7b\"Literal\":\x7b\x7b\"Value\":\"true\"\x7d\x7d\x7d\x7d\x7d\x7d\x7d\x7d\x7d\x7d]\x7d",
    "\x7d\x7d\x7d\x7d\x7d"]),
  ("area_chart_discrete_json", .joined [
    "\x7b\x7b\"name\":\"\x7bvisual_config_name\x7d\",\"layouts\":[\x7b\x7b\"id\":0,\"position\":",
    "\x7b\x7b\"x\":\x7bx\x7d,\"y\":\x7by\x7d,\"z\":\x7bz\x7d,\"width\":\x7bwidth\x7d,\"height\":",
    "\x7bheight\x7d,\"tabOrder\":0\x7d\x7d\x7d\x7d],\"singleVisual\":\x7b\x7b\"visualType\":",
    "\"areaChart\",\"projections\":\x7b\x7b\"Category\":\x7bcat_ref_list\x7d,\"Y\":",
    "\x7by_ref_list\x7d,\"Series\":\x7bseries_ref_list\x7d\x7d\x7d,\"prototypeQuery\":",
    "\x7b\x7b\"Version\":2,\"From\":\x7bfrom_list\x7d,\"Select\":\x7bselect_list\x7d\x7d\x7d,",
    "\"columnProperties\":\x7bcolumn_properties_json\x7d,\"drillFilterOtherVisuals\":\"true\",",
    "\"objects\":\x7b\x7b\"labels\":[\x7b\x7b\"properties\":\x7b\x7b\"show\":\x7b\x7b\"expr\":",
    "\x7b\x7b\"Literal\":\x7b\x7b\"Value\":\"true\"\x7d\x7d\x7d\x7d\x7d\x7d\x7d\x7d\x7d\x7d]\x7d",
    "\x7d\x7d\x7d\x7d\x7d"]),
  ("line_bar_json", .joined [
    "\x7b\x7b\"name\":\"\x7bvisual_config_name\x7d\",\"layouts\":[\x7b\x7b\"id\":0,\"position\":",
    "\x7b\x7b\"x\":\x7bx\x7d,\"y\":\x7by\x7d,\"z\":\x7bz\x7d,\"width\":\x7bwidth\x7d,\"height\":",
    "\x7bheight\x7d,\"tabOrder\":1\x7d\x7d\x7d\x7d],\"singleVisual\":\x7b\x7b\"visualType\":",
    "\"lineStackedColumnComboChart\",\"projections\":\x7b\x7b\"Category\":\x7bcat_ref_list\x7d,",
    "\"Y\":\x7by1_ref_list\x7d,\"Y2\":\x7by2_ref_list\x7d\x7d\x7d,\"prototypeQuery\":",
    "\x7b\x7b\"Version\":2,\"From\":\x7bfrom_list\x7d,\"Select\":\x7bselect_list\x7d\x7d\x7d,",
    "\"columnProperties\":\x7bcolumnproperties_json\x7d,\"drillFilterOtherVisuals\":\"true\",",
    "\"hasDefaultSort\":true,\"objects\":\x7b\x7b\"labels\":[\x7b\x7b\"properties\":",
    "\x7b\x7b\"show\":\x7b\x7b\"expr\":\x7b\x7b\"Literal\":\x7b\x7b\"Value\":\"true\"\x7d\x7d\x7d",
    "\x7d\x7d\x7d\x7d\x7d\x7d\x7d]\x7d\x7d\x7d\x7d\x7d\x7d"]),
  ("line_chart_discrete", .joined [
    "\x7b\x7b\"name\":\"\x7bvisual_config_name\x7d\",\"layouts\":[\x7b\x7b\"id\":0,\"position\":",
    "\x7b\x7b\"x\":\x7bx\x7d,\"y\":\x7by\x7d,\"z\":\x7bz\x7d,\"width\":\x7bwidth\x7d,\"height\":",
    "\x7bheight\x7d,\"tabOrder\":0\x7d\x7d\x7d\x7d],\"singleVisual\":\x7b\x7b\"visualType\":",
    "\"lineChart\",\"projections\":\x7b\x7b\"Y\":\x7by_ref_list\x7d,\"Category\":",
    "\x7bcat_ref_list\x7d,\"Series\":\x7bseries_ref_list\x7d\x7d\x7d,\"prototypeQuery\":",
    "\x7b\x7b\"Version\":2,\"From\":\x7bfrom_list\x7d,\"Select\":\x7bselect_list\x7d,\"OrderBy\":",
    "\x7borderby_list\x7d\x7d\x7d,\"columnProperties\":\x7bcolumn_properties_json\x7d,",
    "\"drillFilterOtherVisuals\":true,\"hasDefaultSort\":true,\"objects\":\x7b\x7b\"labels\":",
    "[\x7b\x7b\"properties\":\x7b\x7b\"show\":\x7b\x7b\"expr\":\x7b\x7b\"Literal\":",
    "\x7b\x7b\"Value\":\"true\"\x7d\x7d\x7d\x7d\x7d\x7d\x7d\x7d\x7d\x7d]\x7d\x7d\x7d\x7d\x7d\x7d"]),
  ("horizontal_stacked_bar", .joined [
    "\x7b\x7b\"name\":\"\x7bvisual_config_name\x7d\",\"layouts\":[\x7b\x7b\"id\":0,\"position\":",
    "\x7b\x7b\"x\":\x7bx\x7d,\"y\":\x7by\x7d,\"z\":\x7bz\x7d,\"width\":\x7bwidth\x7d,\"height\":",
    "\x7bheight\x7d,\"tabOrder\":0\x7d\x7d\x7d\x7d],\"singleVisual\":\x7b\x7b\"visualType\":",
    "\"barChart\",\"projections\":\x7b\x7b\"Category\":\x7bcategory_list\x7d,\"Series\":",
    "\x7bseries_ref_list\x7d,\"Y\":\x7by_ref_list\x7d\x7d\x7d,\"prototypeQuery\":",
    "\x7b\x7b\"Version\":2,\"From\":\x7bfrom_list\x7d,\"Select\":\x7bselect_list\x7d,\"OrderBy\":",
    "\x7borderby_list\x7d\x7d\x7d,\"drillFilterOtherVisuals\":true,\"hasDefaultSort\":true,",
    "\"objects\":\x7b\x7b\"labels\":[\x7b\x7b\"properties\":\x7b\x7b\"show\":\x7b\x7b\"expr\":",
    "\x7b\x7b\"Literal\":\x7b\x7b\"Value\":\"true\"\x7d\x7d\x7d\x7d\x7d\x7d\x7d\x7d\x7d\x7d]\x7d",
    "\x7d\x7d\x7d\x7d\x7d"])]

/-- An empty report. -/
def report : List (String × Constant) := [
  ("report_template",
    .value (.obj [
      ("config", .str (String.join [
        "\x7b\"version\":\"5.44\",\"themeCollection\":\x7b\"baseTheme\":\x7b\"name\":",
        "\"CY24SU06\",\"version\":\"5.56\",\"type\":2\x7d\x7d,\"activeSectionIndex\":0,",
        "\"defaultDrillFilterOtherVisuals\":true,\"linguisticSchemaSyncVersion\":2,\"settings\":",
        "\x7b\"useNewFilterPaneExperience\":true,\"allowChangeFilterTypes\":true,",
        "\"useStylableVisualContainerHeader\":true,\"queryLimitOption\":6,\"exportDataMode\":1,",
        "\"useDefaultAggregateDisplayName\":true\x7d,\"objects\":\x7b\"section\":",
        "[\x7b\"properties\":\x7b\"verticalAlignment\":\x7b\"expr\":\x7b\"Literal\":",
        "\x7b\"Value\":\"'Top'\"\x7d\x7d\x7d\x7d\x7d],\"outspacePane\":[\x7b\"properties\":",
        "\x7b\"expanded\":\x7b\"expr\":\x7b\"Literal\":\x7b\"Value\":\"false\"\x7d\x7d\x7d\x7d",
        "\x7d]\x7d\x7d"])),
      ("layoutOptimization", .int 0),
      ("resourcePackages", .arr [.obj [("resourcePackage", .obj [("disabled", .bool false),
        ("items", .arr [.obj [("name", .str "CY24SU06"), ("path",
        .str "BaseThemes/CY24SU06.json"), ("type", .int 202)]]), ("name", .str "SharedResources"),
        ("type", .int 2)])]]),
      ("sections", .arr [])]))]

end ReportMigration.Wording
