import ReportMigration.Wording.Constant
/-!
Templates for the tables of a semantic model.
-/
namespace ReportMigration.Wording

/-- Tables, partitions and columns of a semantic model. -/
def model : List (String × Constant) := [
  ("LOCAL_DATE_TEMPLATE", .joined [
    "table \x7blocal_date_table_ref\x7d\n",
    "\tisHidden\n",
    "\tshowAsVariationsOnly\n",
    "\tlineageTag: \x7btable_lineage_tag\x7d\n",
    "\n",
    "\tcolumn Date\n",
    "\t\tdataType: dateTime\n",
    "\t\tisHidden\n",
    "\t\tlineageTag: \x7bdate_lineage_tag\x7d\n",
    "\t\tdataCategory: PaddedDateTableDates\n",
    "\t\tsummarizeBy: none\n",
    "\t\tisNameInferred\n",
    "\t\tsourceColumn: [Date]\n",
    "\n",
    "\t\tannotation SummarizationSetBy = User\n",
    "\n",
    "\tcolumn Year = YEAR([Date])\n",
    "\t\tdataType: int64\n",
    "\t\tisHidden\n",
    "\t\tlineageTag: \x7byear_lineage_tag\x7d\n",
    "\t\tdataCategory: Years\n",
    "\t\tsummarizeBy: none\n",
    "\n",
    "\t\tannotation SummarizationSetBy = User\n",
    "\n",
    "\t\tannotation TemplateId = Year\n",
    "\n",
    "\tcolumn MonthNo = MONTH([Date])\n",
    "\t\tdataType: int64\n",
    "\t\tisHidden\n",
    "\t\tlineageTag: \x7bmonth_no_lineage_tag\x7d\n",
    "\t\tdataCategory: MonthOfYear\n",
    "\t\tsummarizeBy: none\n",
    "\n",
    "\t\tannotation SummarizationSetBy = User\n",
    "\n",
    "\t\tannotation TemplateId = MonthNumber\n",
    "\n",
    "\tcolumn Month = FORMAT([Date], \"MMMM\")\n",
    "\t\tdataType: string\n",
    "\t\tisHidden\n",
    "\t\tlineageTag: \x7bmonth_lineage_tag\x7d\n",
    "\t\tdataCategory: Months\n",
    "\t\tsummarizeBy: none\n",
    "\t\tsortByColumn: MonthNo\n",
    "\n",
    "\t\tannotation SummarizationSetBy = User\n",
    "\n",
    "\t\tannotation TemplateId = Month\n",
    "\n",
    "\tcolumn QuarterNo = INT(([MonthNo] + 2) / 3)\n",
    "\t\tdataType: int64\n",
    "\t\tisHidden\n",
    "\t\tlineageTag: \x7bquarter_no_lineage_tag\x7d\n",
    "\t\tdataCategory: QuarterOfYear\n",
    "\t\tsummarizeBy: none\n",
    "\n",
    "\t\tannotation SummarizationSetBy = User\n",
    "\n",
    "\t\tannotation TemplateId = QuarterNumber\n",
    "\n",
    "\tcolumn Quarter = \"Qtr \" & [QuarterNo]\n",
    "\t\tdataType: string\n",
    "\t\tisHidden\n",
    "\t\tlineageTag: \x7bquarter_lineage_tag\x7d\n",
    "\t\tdataCategory: Quarters\n",
    "\t\tsummarizeBy: none\n",
    "\t\tsortByColumn: QuarterNo\n",
    "\n",
    "\t\tannotation SummarizationSetBy = User\n",
    "\n",
    "\t\tannotation TemplateId = Quarter\n",
    "\n",
    "\tcolumn Day = DAY([Date])\n",
    "\t\tdataType: int64\n",
    "\t\tisHidden\n",
    "\t\tlineageTag: \x7bday_lineage_tag\x7d\n",
    "\t\tdataCategory: DayOfMonth\n",
    "\t\tsummarizeBy: none\n",
    "\n",
    "\t\tannotation SummarizationSetBy = User\n",
    "\n",
    "\t\tannotation TemplateId = Day\n",
    "\n",
    "\thierarchy 'Date Hierarchy'\n",
    "\t\tlineageTag: \x7bhierarchy_lineage_tag\x7d\n",
    "\n",
    "\t\tlevel Year\n",
    "\t\t\tlineageTag: \x7bhierarchy_year_lineage_tag\x7d\n",
    "\t\t\tcolumn: Year\n",
    "\n",
    "\t\tlevel Quarter\n",
    "\t\t\tlineageTag: \x7bhierarchy_quarter_lineage_tag\x7d\n",
    "\t\t\tcolumn: Quarter\n",
    "\n",
    "\t\tlevel Month\n",
    "\t\t\tlineageTag: \x7bhierarchy_month_lineage_tag\x7d\n",
    "\t\t\tcolumn: Month\n",
    "\n",
    "\t\tlevel Day\n",
    "\t\t\tlineageTag: \x7bhierarchy_day_lineage_tag\x7d\n",
    "\t\t\tcolumn: Day\n",
    "\n",
    "\t\tannotation TemplateId = DateHierarchy\n",
    "\n",
    "\tpartition \x7blocal_date_table_ref\x7d = calculated\n",
    "\t\tmode: import\n",
    "\t\tsource = Calendar(Date(Year(MIN('\x7btable_name\x7d'[\x7bcolumn_name\x7d])), 1, 1), ",
    "Date(Year(MAX('\x7btable_name\x7d'[\x7bcolumn_name\x7d])), 12, 31))\n",
    "\n",
    "\tannotation __PBI_LocalDateTable = true\n"]),
  ("NUMERIC_PARAMETER_TEMPLATE", .joined [
    "table '\x7btable_name\x7d'\n",
    "\tlineageTag: \x7btable_lineage_tag\x7d\n",
    "\n",
    "\tmeasure '\x7btable_name\x7d Value' = SELECTEDVALUE('\x7btable_name\x7d'[\x7btable_name\x7d",
    "], \x7bdefault_value\x7d)\n",
    "\t\tlineageTag: \x7bmeasure_lineage_tag\x7d\n",
    "\x7bmeasure_format_string\x7d\n",
    "\n",
    "\tcolumn '\x7btable_name\x7d'\n",
    "\t\tdataType: \x7bdata_type\x7d\n",
    "\t\tformatString: \x7bcolumn_format_string\x7d\n",
    "\t\tlineageTag: \x7bcolumn_lineage_tag\x7d\n",
    "\t\tsummarizeBy: none\n",
    "\t\tsourceColumn: [Value]\n",
    "\n",
    "\t\textendedProperty ParameterMetadata =\n",
    "\t\t\t\x7b\x7b\n",
    "\t\t\t  \"version\": 0\n",
    "\t\t\t\x7d\x7d\n",
    "\n",
    "\t\tannotation SummarizationSetBy = User\n",
    "\n",
    "\tpartition '\x7btable_name\x7d' = calculated\n",
    "\t\tmode: import\n",
    "\t\tsource = GENERATESERIES(\x7bmin_val\x7d, \x7bmax_val\x7d, \x7bstep\x7d)\n",
    "\n",
    "\tannotation PBI_Id = \x7bpbi_id\x7d\n"]),
  ("FIELD_PARAMETER_TEMPLATE", .joined [
    "table '\x7btable_name\x7d'\n",
    "\tlineageTag: \x7btable_lineage_tag\x7d\n",
    "\n",
    "\tcolumn '\x7btable_name\x7d'\n",
    "\t\tlineageTag: \x7bcolumn_lineage_tag\x7d\n",
    "\t\tsummarizeBy: none\n",
    "\t\tsourceColumn: [Value1]\n",
    "\t\tsortByColumn: '\x7btable_name\x7d Order'\n",
    "\n",
    "\t\trelatedColumnDetails\n",
    "\t\t\tgroupByColumn: '\x7btable_name\x7d Fields'\n",
    "\n",
    "\t\tannotation SummarizationSetBy = Automatic\n",
    "\n",
    "\tcolumn '\x7btable_name\x7d Fields'\n",
    "\t\tisHidden\n",
    "\t\tlineageTag: \x7bfields_column_lineage_tag\x7d\n",
    "\t\tsummarizeBy: none\n",
    "\t\tsourceColumn: [Value2]\n",
    "\t\tsortByColumn: '\x7btable_name\x7d Order'\n",
    "\n",
    "\t\textendedProperty ParameterMetadata =\n",
    "\t\t\t\x7b\x7b\n",
    "\t\t\t  \"version\": 3,\n",
    "\t\t\t  \"kind\": 2\n",
    "\t\t\t\x7d\x7d\n",
    "\n",
    "\t\tannotation SummarizationSetBy = Automatic\n",
    "\n",
    "\tcolumn '\x7btable_name\x7d Order'\n",
    "\t\tisHidden\n",
    "\t\tformatString: 0\n",
    "\t\tlineageTag: \x7border_column_lineage_tag\x7d\n",
    "\t\tsummarizeBy: sum\n",
    "\t\tsourceColumn: [Value3]\n",
    "\n",
    "\t\tannotation SummarizationSetBy = Automatic\n",
    "\n",
    "\tpartition '\x7btable_name\x7d' = calculated\n",
    "\t\tmode: import\n",
    "\t\tsource =\n",
    "\t\t\t\t\x7b\x7b\n",
    "\t\t\t\t    (\"\x7bsource_column\x7d\", NAMEOF('\x7bsource_table\x7d'[\x7bsource_column\x7d",
    "]), 0)\n",
    "\t\t\t\t\x7d\x7d\n",
    "\n",
    "\tannotation PBI_Id = \x7bpbi_id\x7d\n"]),
  ("LIST_PARAMETER_TEMPLATE", .joined [
    "table '\x7btable_name\x7d' \n",
    "\tlineageTag: \x7btable_lineage_tag\x7d\n",
    "\n",
    "\tcolumn Value\n",
    "\t\tlineageTag: \x7bvalue_column_lineage_tag\x7d\n",
    "\t\tsummarizeBy: \x7bvalue_summarize_by\x7d\n",
    "\t\tisNameInferred\n",
    "\t\tsourceColumn: [Value]\n",
    "\x7bvalue_format_string\x7d\x7bvalue_format_hint\x7d\t\tannotation SummarizationSetBy = ",
    "Automatic\n",
    "\n",
    "\tcolumn 'Display As'\n",
    "\t\tlineageTag: \x7bdisplay_as_column_lineage_tag\x7d\n",
    "\t\tsummarizeBy: none\n",
    "\t\tisNameInferred\n",
    "\t\tsourceColumn: [Display As]\n",
    "\t\tannotation SummarizationSetBy = Automatic\n",
    "\n",
    "\tpartition '\x7btable_name\x7d' = calculated\n",
    "\t\tmode: import\n",
    "\t\tsource = ```\n",
    "\t\t\tDATATABLE(\n",
    "\t\t\t\t\"Value\", \x7bvalue_data_type\x7d,\n",
    "\t\t\t\t\"Display As\", STRING,\n",
    "\t\t\t\t\x7b\x7b\n",
    "\x7bmember_values\x7d\n",
    "\t\t\t\t\x7d\x7d\n",
    "\t\t\t)\n",
    "\t\t```\n",
    "\tannotation PBI_Id = \x7bpbi_id\x7d\n"]),
  ("ANY_PARAMETER_TEMPLATE", .joined [
    "table '\x7btable_name\x7d'\n",
    "\tlineageTag: \x7btable_lineage_tag\x7d\n",
    "\n",
    "\tcolumn '\x7btable_name\x7d'\n",
    "\t\tlineageTag: \x7bcolumn_lineage_tag\x7d\n",
    "\t\tsummarizeBy: none\n",
    "\t\tsourceColumn: [Value1]\n",
    "\t\tsortByColumn: '\x7btable_name\x7d Order'\n",
    "\n",
    "\t\trelatedColumnDetails\n",
    "\t\t\tgroupByColumn: '\x7btable_name\x7d Fields'\n",
    "\n",
    "\t\tannotation SummarizationSetBy = Automatic\n",
    "\n",
    "\tcolumn '\x7btable_name\x7d Fields'\n",
    "\t\tisHidden\n",
    "\t\tlineageTag: \x7bfields_column_lineage_tag\x7d\n",
    "\t\tsummarizeBy: none\n",
    "\t\tsourceColumn: [Value2]\n",
    "\t\tsortByColumn: '\x7btable_name\x7d Order'\n",
    "\n",
    "\t\textendedProperty ParameterMetadata =\n",
    "\t\t\t\x7b\x7b\n",
    "\t\t\t  \"version\": 3,\n",
    "\t\t\t  \"kind\": 2\n",
    "\t\t\t\x7d\x7d\n",
    "\n",
    "\t\tannotation SummarizationSetBy = Automatic\n",
    "\n",
    "\tcolumn '\x7btable_name\x7d Order'\n",
    "\t\tisHidden\n",
    "\t\tformatString: 0\n",
    "\t\tlineageTag: \x7border_column_lineage_tag\x7d\n",
    "\t\tsummarizeBy: sum\n",
    "\t\tsourceColumn: [Value3]\n",
    "\n",
    "\t\tannotation SummarizationSetBy = Automatic\n",
    "\n",
    "\tpartition '\x7btable_name\x7d' = calculated\n",
    "\t\tmode: import\n",
    "\t\tsource =\n",
    "\t\t\t\t\x7b\x7b\n",
    "\t\t\t\t\x7bdax_rows\x7d\n",
    "\t\t\t\t\x7d\x7d\n",
    "\n",
    "\tannotation PBI_Id = \x7bpbi_id\x7d\n"]),
  ("PARTITION_BLOCK_EXCEL", .joined [
    "\n",
    "\tpartition '\x7btable_var\x7d' = m\n",
    "\t\tmode: import\n",
    "\t\tsource =\n",
    "\t\t\t\t\tlet\n",
    "\t\t\t\t\t    Source = Excel.Workbook(File.Contents(\"\x7bfile_path\x7d\"), null, true),\n",
    "\t\t\t    \t\t#\"\x7btable_var\x7d_Sheet\" = Source\x7b\x7b[Item=\"\x7btable_var\x7d\",",
    "Kind=\"Sheet\"]\x7d\x7d[Data],\n",
    "\t\t\t    \t\t#\"Promoted Headers\" = Table.PromoteHeaders(#\"\x7btable_var\x7d_Sheet\", ",
    "[PromoteAllScalars=true]),\n",
    "\t\t\t    \t\t#\"Changed Type\" = Table.TransformColumnTypes(#\"Promoted Headers\",",
    "\x7bpartition_columns_str\x7d)\n",
    "\t\t\t\t\tin\n",
    "\t\t\t    \t\t#\"Changed Type\"\n",
    "\n",
    "\tannotation PBI_ResultType = Table\n"]),
  ("PARTITION_BLOCK_CSV", .joined [
    "\n",
    "\tpartition \x7btable_name\x7d = m\n",
    "\t\tmode: import\n",
    "\t\tsource =\n",
    "\t\t\t\t\tlet\n",
    "\t\t\t    \t\tSource = Csv.Document(File.Contents(\"\x7bfile_path\x7d\"), [Delimiter=\",\", ",
    "Encoding=1252, QuoteStyle=QuoteStyle.None]),\n",
    "\t\t\t    \t\t#\"Promoted Headers\" = Table.PromoteHeaders(Source, [PromoteAllScalars=true])",
    ",\n",
    "\t\t\t    \t\t#\"Changed Type\" = Table.TransformColumnTypes(#\"Promoted Headers\",",
    "\x7bpartition_columns_str\x7d)\n",
    "\t\t\t\t\tin\n",
    "\t\t\t    \t\t#\"Changed Type\"\n",
    "\n",
    "\tannotation PBI_ResultType = Table\n"]),
  ("PARTITION_BLOCK_HYPER", .joined [
    "\n",
    "\tpartition \x7btable_name\x7d = m\n",
    "\t\tmode: import\n",
    "\t\tsource =\n",
    "\t\t\t\t\tlet\n",
    "\t\t\t    \t\tSource = Csv.Document(File.Contents(\"\x7bfile_path\x7d\"), [Delimiter=\",\", ",
    "Encoding=1252, QuoteStyle=QuoteStyle.None]),\n",
    "\t\t\t    \t\t#\"Promoted Headers\" = Table.PromoteHeaders(Source, [PromoteAllScalars=true])",
    ",\n",
    "\t\t\t    \t\t#\"Changed Type\" = Table.TransformColumnTypes(#\"Promoted Headers\",",
    "\x7bpartition_columns_str\x7d)\n",
    "\t\t\t\t\tin\n",
    "\t\t\t    \t\t#\"Changed Type\"\n",
    "\n",
    "\tannotation PBI_ResultType = Table\n"]),
  ("PARTITION_BLOCK_SQL", .joined [
    "\n",
    "\tpartition \x7btable_name\x7d = m\n",
    "\t\tmode: import\n",
    "\t\tsource =\n",
    "\t\t\t\t\tlet\n",
    "\t\t\t    \t\tSource = Sql.Databases(\"\x7bserver\x7d\"),\n",
    "\t\t\t    \t\t#\"\x7bdatabase\x7d\" = Source\x7b\x7b[Name=\"\x7bdatabase\x7d\"]\x7d\x7d",
    "[Data],\n",
    "\t\t\t    \t\t#\"dbo_\x7btable_name\x7d\" = #\"\x7bdatabase\x7d\"\x7b\x7b[Schema=\"dbo\", ",
    "Item=\"\x7btable_name\x7d\"]\x7d\x7d[Data]\n",
    "\t\t\t\t\tin\n",
    "\t\t\t    \t\t#\"dbo_\x7btable_name\x7d\"\n",
    "\n",
    "\tannotation PBI_ResultType = Table\n"]),
  ("PARTITION_BLOCK_CUSTOM_SQL", .joined [
    "\n",
    "\tpartition \x7btable_name\x7d = m\n",
    "\t\tmode: import\n",
    "\t\tsource =\n",
    "\t\t\t\tlet\n",
    "\t\t\t\t\tSource = Sql.Database(\"\x7bserver\x7d\", \"\x7bdatabase\x7d\", ",
    "[Query=\"\x7bquery\x7d\"])\n",
    "\t\t\t\tin\n",
    "\t\t\t\t\tSource\n",
    "\n",
    "\tannotation PBI_ResultType = Table\n"]),
  ("PARTITION_BLOCK_SNOWFLAKE", .joined [
    " \n",
    "\tpartition \x7btable_name\x7d = m \n",
    "\t\tmode: import \n",
    "\t\tsource = \n",
    "\t\t\t\t\tlet \n",
    "\t\t\t    \t\tSource = Snowflake.Databases(\"\x7bserver\x7d\",\"\x7bwarehouse\x7d\", ",
    "[Implementation=\"2.0\"]), \n",
    "\t\t\t    \t\t\x7bdatabase\x7d_Database = Source\x7b\x7b[Name=\"\x7bdatabase\x7d\", ",
    "Kind=\"Database\"]\x7d\x7d[Data], \n",
    "\t\t\t    \t\t\x7bschema\x7d_Schema = \x7bdatabase\x7d",
    "_Database\x7b\x7b[Name=\"\x7bschema\x7d\", Kind=\"Schema\"]\x7d\x7d[Data], \n",
    "\t\t\t    \t\t\x7btable_name\x7d_Table = \x7bschema\x7d",
    "_Schema\x7b\x7b[Name=\"\x7btable_name\x7d\", Kind=\"Table\"]\x7d\x7d[Data] \n",
    "\t\t\t\t\tin \n",
    "\t\t\t    \t\t\x7btable_name\x7d_Table\n",
    "\n",
    "\tannotation PBI_ResultType = Table \n"]),
  ("PARTITION_BLOCK_DATABRICKS", .joined [
    "\n",
    "\n",
    "\tpartition \x7btable_name\x7d = m\n",
    "\t\tmode: import\n",
    "\t\tsource =\n",
    "\t\t\t\t\tlet\n",
    "\t\t\t    \t\tSource = Databricks.Catalogs(\"\x7bserver\x7d\",\"\x7bv_http_path\x7d\", ",
    "[Catalog=null, Database=null, EnableAutomaticProxyDiscovery=null, Implementation=null]),\n",
    "\t\t\t    \t\t\x7bdatabase\x7d_Database = Source\x7b\x7b[Name=\"\x7bdatabase\x7d\",",
    "Kind=\"Database\"]\x7d\x7d[Data],\n",
    "\t\t\t    \t\t\x7bschema\x7d_Schema = \x7bdatabase\x7d",
    "_Database\x7b\x7b[Name=\"\x7bschema\x7d\",Kind=\"Schema\"]\x7d\x7d[Data],\n",
    "\t\t\t    \t\t\x7bname\x7d_Table = \x7bschema\x7d_Schema\x7b\x7b[Name=\"\x7bname\x7d\",",
    "Kind=\"Table\"]\x7d\x7d[Data]\n",
    "\t\t\t\t\tin\n",
    "\t\t\t    \t\t\x7bname\x7d_Table\n",
    "\n",
    "\tannotation PBI_ResultType = Table\n"]),
  ("PARTITION_BLOCK_SQLPROXY", .joined [
    "\n",
    "\n",
    "\tpartition \x7btable_name\x7d = m\n",
    "\t\tmode: import\n",
    "\t\tsource =\n",
    "\t\t\t\tlet\n",
    "\t\t\t\t    Source = Odbc.DataSource(\"driver=\x7b\x7bODBC Driver 17 for SQL Server\x7d\x7d",
    ";server=\x7bserver\x7d;database=\x7bdatabase\x7d\", [HierarchicalNavigation=true]),\n",
    "\t\t\t\t    \x7bdatabase\x7d_Database = Source\x7b\x7b[Name=\"\x7bdatabase\x7d\",",
    "Kind=\"Database\"]\x7d\x7d[Data],\n",
    "\t\t\t\t    \x7bschema\x7d_Schema = \x7bdatabase\x7d_Database\x7b\x7b[Name=\"\x7bschema\x7d",
    "\",Kind=\"Schema\"]\x7d\x7d[Data],\n",
    "\t\t\t\t    \x7bname\x7d_Table = \x7bschema\x7d_Schema\x7b\x7b[Name=\"\x7bname\x7d\",",
    "Kind=\"Table\"]\x7d\x7d[Data]\n",
    "\t\t\t\tin\n",
    "\t\t\t\t    \x7bname\x7d_Table\n",
    "\n",
    "\tannotation PBI_ResultType = Table\n"]),
  ("TABLE_NAME_CALCULATIONS", .text "Calculations"),
  ("PARTITION_BLOCK_CALCULATIONS", .joined [
    "\tpartition \x7btable_name\x7d = m\n",
    "\t\tmode: import\n",
    "\t\tsource =\n",
    "\t\t\t\t\tlet\n",
    "\t\t\t    \t\tSource = ",
    "Table.FromRows(Json.Document(Binary.Decompress(Binary.FromText(\"i44FAA==\", ",
    "BinaryEncoding.Base64), Compression.Deflate)), let _t = ((type nullable text) meta ",
    "[Serialized.Text = true]) in type table [Column1 = _t]),\n",
    "\t\t\t    \t\t#\"Changed Type\" = Table.TransformColumnTypes(Source,\x7b\x7b\"Column1\", ",
    "type text\x7d\x7d),\n",
    "\t\t\t    \t\t#\"Removed Columns\" = Table.RemoveColumns(#\"Changed Type\",",
    "\x7b\x7b\"Column1\"\x7d\x7d)\n",
    "\t\t\t\t\tin\n",
    "\t\t\t    \t\t#\"Removed Columns\"\n",
    "\n",
    "\tannotation PBI_ResultType = Table\n"]),
  ("GROUP_COLUMN_TEMPLATE", .joined [
    "\n",
    "\tcolumn \x7bgroup_name\x7d = \x7bdax_formula\x7d\n",
    "\t\tlineageTag: \x7blineage_tag\x7d\n",
    "\t\tsummarizeBy: none\n",
    "\n",
    "\t\textendedProperty GroupingMetadata =\n",
    "\t\t\t\x7bgrouping_metadata\x7d\n",
    "\n",
    "\t\tannotation GroupingDesignState = \x7bgrouping_design_state\x7d\n",
    "\n",
    "\t\tannotation SummarizationSetBy = Automatic\n"]),
  ("MODEL_TMDL_HEADER", .joined [
    "model Model\n",
    "\tculture: en-US\n",
    "\tdefaultPowerBIDataSourceVersion: powerBI_V3\n",
    "\tsourceQueryCulture: en-IN\n",
    "\tdataAccessOptions\n",
    "\t\tlegacyRedirects\n",
    "\t\treturnErrorValuesAsNull\n",
    "\n",
    "\tannotation PBI_QueryOrder = \x7bquery_order\x7d\n",
    "\tannotation __PBI_TimeIntelligenceEnabled = 1\n",
    "\tannotation PBIDesktopVersion = 2.144.1378.0 (25.06)",
    "+cba1e61f16ea36d44901f06fa446299040122394\n",
    "\tannotation PBI_ProTooling = [\"DevMode\"]\n"]),
  ("MODEL_TMDL_REF_CULTURE", .text "ref cultureInfo en-US")]

end ReportMigration.Wording
